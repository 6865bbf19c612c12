import PlotLang.Command
import PlotLang.Compilation
import PlotLang.Drawing
import PlotLang.Expression
import PlotLang.Main
import PlotLang.Program.Builder
import PlotLang.Proofs.AddedDefinition
import PlotLang.Proofs.Arrangement
import PlotLang.Proofs.Atomicity
import PlotLang.Proofs.Confinement
import PlotLang.Proofs.Escaping
import PlotLang.Proofs.GridTile
import PlotLang.Proofs.InertText
import PlotLang.Proofs.Listing
import PlotLang.Proofs.Literals
import PlotLang.Proofs.NoLapse
import PlotLang.Proofs.NoTrace
import PlotLang.Proofs.OnCanvas
import PlotLang.Proofs.Permitted
import PlotLang.Proofs.Renaming
import PlotLang.Proofs.SignedZero
import PlotLang.Proofs.Tuples
import PlotLang.Proofs.Vocabulary
import PlotLang.Structure
import PlotLang.Summary
import PlotLang.Token.Lexer
