import Axial.Main
import Axial.Proofs.AnswerShape
import Axial.Proofs.EntryFirst
import Axial.Proofs.FilterOrder
import Axial.Proofs.StoreHistory
import Axial.Proofs.ExchangedAxes
import Axial.Proofs.Reduction
import Axial.Proofs.Chains
import Axial.Proofs.Loading
import Axial.Proofs.RowMajor
import Axial.Proofs.WrittenNames
import Axial.Proofs.MissingOperation
import Axial.Proofs.FilteredOut
import Axial.Proofs.WholeMatch
import Axial.Proofs.ErrorPlaces
import Axial.Proofs.Submatrices
import Axial.Proofs.Footprint
import Axial.Proofs.Assignments
import Axial.Proofs.Clamping
