import ScriptBindings.Comment
import ScriptBindings.Model.File
import ScriptBindings.Name.SymbolId
import ScriptBindings.Run
import ScriptBindings.Proofs.FailedWrite
import ScriptBindings.Proofs.AbortedRun
import ScriptBindings.Proofs.Regeneration
import ScriptBindings.Proofs.ScriptFiles
import ScriptBindings.Proofs.DeclarationOrder
import ScriptBindings.Proofs.SupersInUse
import ScriptBindings.Proofs.TypeNames
import ScriptBindings.Proofs.Respelling
import ScriptBindings.Proofs.HashedNames
import ScriptBindings.Proofs.BoundedPaths
import ScriptBindings.Proofs.ElementTypes
import ScriptBindings.Proofs.SupersByDistance
import ScriptBindings.Proofs.PairedNames
import ScriptBindings.Proofs.RepeatedWrites
import ScriptBindings.Proofs.CommentLines
import ScriptBindings.Proofs.DeclaredDepths
import ScriptBindings.Proofs.MethodQuestions
import ScriptBindings.Proofs.NameMarks
import ScriptBindings.Proofs.SymbolIds
