import ClientGen.Code.Description
import ClientGen.Main
import ClientGen.Proofs.Annotations
import ClientGen.Proofs.Collapse
import ClientGen.Proofs.ConfigErrors
import ClientGen.Proofs.ControlCharacters
import ClientGen.Proofs.Edits
import ClientGen.Proofs.ExitCodes
import ClientGen.Proofs.Extension
import ClientGen.Proofs.FetchErrors
import ClientGen.Proofs.FreeNumbers
import ClientGen.Proofs.Identifiers
import ClientGen.Proofs.Members
import ClientGen.Proofs.Normalisation
import ClientGen.Proofs.Overwrites
import ClientGen.Proofs.ParameterNames
import ClientGen.Proofs.PathEncoding
import ClientGen.Proofs.PathExpressions
import ClientGen.Proofs.PathNames
import ClientGen.Proofs.Repetition
import ClientGen.Proofs.SavedSettings
import ClientGen.Proofs.Scopes
import ClientGen.Proofs.Signatures
import ClientGen.Proofs.SourceEncoding
import ClientGen.Proofs.Summaries
