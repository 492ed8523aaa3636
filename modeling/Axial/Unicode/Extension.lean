import Axial.Unicode.Script

/-!
# Characters shared by scripts

A character may be used by more scripts than the one it belongs to. The table follows version 16
of the standard.

* `scriptExtension?` : the characters that a script uses, by its name.
-/

namespace Axial

namespace Unicode

/-- The characters that several scripts use, or that one uses without owning them, with the short
names of the scripts. -/
def shared : List (List String × CharSet) :=
  [(["avst", "cari", "copt", "dupl", "elba", "geor", "glag", "gong", "goth", "grek", "han", "latn",
     "lydi", "mahj", "perm", "shaw"],
    readRanges ["B7"]),
   (["beng", "cyrl", "deva", "latn", "lisu", "thai", "toto"], readRanges ["2BC"]),
   (["bopo", "latn"], readRanges ["2C7 2C9-2CB 2D9"]),
   (["latn", "lisu"], readRanges ["2CD"]),
   (["latn", "thai"], readRanges ["2D7"]),
   (["cher", "copt", "cyrl", "grek", "latn", "perm", "sunu", "tale"], readRanges ["300"]),
   (["cher", "cyrl", "grek", "latn", "osge", "sunu", "tale", "todr"], readRanges ["301"]),
   (["cher", "cyrl", "latn", "tfng"], readRanges ["302"]),
   (["glag", "latn", "sunu", "syrc", "thai"], readRanges ["303"]),
   (["aghb", "cher", "copt", "cyrl", "goth", "grek", "latn", "osge", "syrc", "tfng", "todr"],
    readRanges ["304"]),
   (["copt", "elba", "glag", "goth", "kana", "latn"], readRanges ["305"]),
   (["cyrl", "grek", "latn", "perm"], readRanges ["306"]),
   (["copt", "dupl", "hebr", "latn", "perm", "syrc", "tale", "tfng", "todr"], readRanges ["307"]),
   (["armn", "cyrl", "dupl", "goth", "grek", "hebr", "latn", "perm", "syrc", "tale"],
    readRanges ["308"]),
   (["latn", "tfng"], readRanges ["309"]),
   (["dupl", "latn", "syrc"], readRanges ["30A"]),
   (["cher", "cyrl", "latn", "osge"], readRanges ["30B"]),
   (["cher", "latn", "tale"], readRanges ["30C"]),
   (["latn", "sunu"], readRanges ["30D 310"]),
   (["ethi", "latn"], readRanges ["30E"]),
   (["cyrl", "latn", "todr"], readRanges ["311"]),
   (["grek", "latn", "perm", "todr"], readRanges ["313"]),
   (["latn", "syrc"], readRanges ["320 325 32E"]),
   (["cher", "dupl", "kana", "latn", "syrc"], readRanges ["323"]),
   (["cher", "dupl", "latn", "syrc"], readRanges ["324"]),
   (["latn", "sunu", "syrc"], readRanges ["32D"]),
   (["cher", "latn", "syrc"], readRanges ["330"]),
   (["aghb", "cher", "goth", "latn", "sunu", "thai"], readRanges ["331"]),
   (["grek"], readRanges ["342 345 1DC0-1DC1"]),
   (["latn", "osge"], readRanges ["358"]),
   (["aghb", "latn", "todr"], readRanges ["35E"]),
   (["latn"], readRanges ["363-36F"]),
   (["copt", "grek"], readRanges ["374-375"]),
   (["cyrl", "perm"], readRanges ["483"]),
   (["cyrl", "glag"], readRanges ["484 487 2E43 A66F"]),
   (["cyrl", "latn"], readRanges ["485-486"]),
   (["armn", "geor", "glag"], readRanges ["589"]),
   (["arab", "gara", "nko", "rohg", "syrc", "thaa", "yezi"], readRanges ["60C 61B"]),
   (["arab", "syrc", "thaa"], readRanges ["61C"]),
   (["adlm", "arab", "gara", "nko", "rohg", "syrc", "thaa", "yezi"], readRanges ["61F"]),
   (["adlm", "arab", "mand", "mani", "ougr", "phlp", "rohg", "sogd", "syrc"], readRanges ["640"]),
   (["arab", "syrc"], readRanges ["64B-655 670"]),
   (["arab", "thaa", "yezi"], readRanges ["660-669"]),
   (["arab", "rohg"], readRanges ["6D4"]),
   (["beng", "deva", "gran", "gujr", "guru", "knda", "latn", "mlym", "orya", "shrd", "taml",
     "telu", "tirh"],
    readRanges ["951"]),
   (["beng", "deva", "gran", "gujr", "guru", "knda", "latn", "mlym", "orya", "taml", "telu",
     "tirh"],
    readRanges ["952"]),
   (["beng", "deva", "dogr", "gong", "gonm", "gran", "gujr", "guru", "knda", "mahj", "mlym",
     "nand", "onao", "orya", "sind", "sinh", "sylo", "takr", "taml", "telu", "tirh"],
    readRanges ["964"]),
   (["beng", "deva", "dogr", "gong", "gonm", "gran", "gujr", "gukh", "guru", "knda", "limb",
     "mahj", "mlym", "nand", "onao", "orya", "sind", "sinh", "sylo", "takr", "taml", "telu",
     "tirh"],
    readRanges ["965"]),
   (["deva", "dogr", "kthi", "mahj"], readRanges ["966-96F"]),
   (["beng", "cakm", "sylo"], readRanges ["9E6-9EF"]),
   (["guru", "mult"], readRanges ["A66-A6F"]),
   (["gujr", "khoj"], readRanges ["AE6-AEF"]),
   (["gran", "taml"], readRanges ["BE6-BF3 11301 11303 1133B-1133C 11FD0-11FD1 11FD3"]),
   (["knda", "nand", "tutg"], readRanges ["CE6-CEF"]),
   (["cakm", "mymr", "tale"], readRanges ["1040-1049"]),
   (["geor", "glag", "latn"], readRanges ["10FB"]),
   (["runr"], readRanges ["16EB-16ED"]),
   (["buhd", "hano", "tagb", "tglg"], readRanges ["1735-1736"]),
   (["mong", "phag"], readRanges ["1802-1803 1805"]),
   (["beng", "deva", "gran", "knda"], readRanges ["1CD0 1CD2"]),
   (["deva"], readRanges ["1CD1 1CD4 1CDB 1CDE-1CDF 1CE2-1CE8 1CEB-1CEC 1CEE-1CF1"]),
   (["deva", "gran", "knda"], readRanges ["1CD3"]),
   (["beng", "deva"], readRanges ["1CD5-1CD6 1CD8 1CE1 1CEA 1CED 1CF5-1CF6"]),
   (["deva", "shrd"], readRanges ["1CD7 1CD9 1CDC-1CDD 1CE0"]),
   (["deva", "knda", "mlym", "orya", "taml", "telu"], readRanges ["1CDA"]),
   (["deva", "nand"], readRanges ["1CE9"]),
   (["beng", "deva", "gran", "knda", "mlym", "nand", "orya", "sinh", "telu", "tirh", "tutg"],
    readRanges ["1CF2"]),
   (["deva", "gran"], readRanges ["1CF3 1CF8-1CF9"]),
   (["deva", "gran", "knda", "tutg"], readRanges ["1CF4"]),
   (["beng"], readRanges ["1CF7"]),
   (["nand"], readRanges ["1CFA"]),
   (["cyrl", "latn", "syrc"], readRanges ["1DF8"]),
   (["syrc"], readRanges ["1DFA"]),
   (["latn", "mong", "phag"], readRanges ["202F"]),
   (["adlm", "arab"], readRanges ["204F"]),
   (["cari", "geor", "glag", "hung", "lyci", "orkh"], readRanges ["205A"]),
   (["cari", "grek", "hung", "mero"], readRanges ["205D"]),
   (["deva", "gran", "latn"], readRanges ["20F0"]),
   (["copt", "latn"], readRanges ["2E17"]),
   (["avst", "orkh"], readRanges ["2E30"]),
   (["avst", "cari", "geor", "hung", "kthi", "lydi", "samr"], readRanges ["2E31"]),
   (["dupl"], readRanges ["2E3C 1BCA0-1BCA3"]),
   (["adlm", "arab", "hung"], readRanges ["2E41"]),
   (["han", "tang"], readRanges ["2FF0-2FFF 31EF"]),
   (["bopo", "han", "hang", "hira", "kana", "mong", "yi"], readRanges ["3001"]),
   (["bopo", "han", "hang", "hira", "kana", "mong", "phag", "yi"], readRanges ["3002"]),
   (["bopo", "han", "hang", "hira", "kana"],
    readRanges ["3003 3013 301C-301F 3030 3037 FE45-FE46"]),
   (["han"],
    readRanges
      ["3006 303E-303F 3190-319F 31C0-31E5 3220-3247 3280-32B0 32C0-32CB 32FF 3358-3370 337B-337F",
       "33E0-33FE 1D360-1D371 1F250-1F251"]),
   (["bopo", "han", "hang", "hira", "kana", "mong", "tibt", "yi"], readRanges ["3008-3009"]),
   (["bopo", "han", "hang", "hira", "kana", "lisu", "mong", "tibt", "yi"],
    readRanges ["300A-300B"]),
   (["bopo", "han", "hang", "hira", "kana", "yi"],
    readRanges ["300C-3011 3014-301B 30FB FF61-FF65"]),
   (["bopo", "han"], readRanges ["302A-302D"]),
   (["hira", "kana"], readRanges ["3031-3035 3099-309C 30A0 30FC FF70 FF9E-FF9F"]),
   (["han", "hira", "kana"], readRanges ["303C-303D"]),
   (["han", "latn"], readRanges ["A700-A707"]),
   (["deva", "dogr", "gujr", "guru", "khoj", "knda", "kthi", "mahj", "mlym", "modi", "nand",
     "shrd", "sind", "takr", "tirh", "tutg"],
    readRanges ["A830-A832"]),
   (["deva", "dogr", "gujr", "guru", "khoj", "knda", "kthi", "mahj", "modi", "nand", "shrd",
     "sind", "takr", "tirh", "tutg"],
    readRanges ["A833-A835"]),
   (["deva", "dogr", "gujr", "guru", "khoj", "kthi", "mahj", "modi", "sind", "takr", "tirh"],
    readRanges ["A836-A837 A839"]),
   (["deva", "dogr", "gujr", "guru", "khoj", "kthi", "mahj", "modi", "shrd", "sind", "takr",
     "tirh"],
    readRanges ["A838"]),
   (["beng", "deva", "tutg"], readRanges ["A8F1"]),
   (["deva", "taml"], readRanges ["A8F3"]),
   (["kali", "latn", "mymr"], readRanges ["A92E"]),
   (["bugi", "java"], readRanges ["A9CF"]),
   (["arab", "nko"], readRanges ["FD3E-FD3F"]),
   (["arab", "thaa"], readRanges ["FDF2 FDFD"]),
   (["cpmn", "cprt", "linb"], readRanges ["10100-10101"]),
   (["cprt", "linb"], readRanges ["10102 10137-1013F"]),
   (["cprt", "lina", "linb"], readRanges ["10107-10133"]),
   (["arab", "copt"], readRanges ["102E0-102FB"]),
   (["mani", "ougr"], readRanges ["10AF2"])]

/-- All characters of the table. -/
def allShared : CharSet :=
  .unions (shared.map (·.2))

/-- The characters that a script uses: those of its own that are not in the table, and those of
the table that name it. -/
def extended (script : CharSet.Named) : CharSet :=
  .unions (script.set.diff allShared ::
    (shared.filter fun row => row.1.any (· ∈ script.names)).map (·.2))

/-- The characters that the script with the given name uses. -/
def scriptExtension? (name : String) : Option CharSet :=
  (scripts.find? (name ∈ ·.names)).map extended

end Unicode

end Axial
