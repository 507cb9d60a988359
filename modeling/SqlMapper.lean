import SqlMapper.Document.Printer
import SqlMapper.Main
import SqlMapper.Proofs.InclusionTransparency
import SqlMapper.Proofs.ParameterFlow
import SqlMapper.Proofs.StoreHistory
import SqlMapper.Proofs.Termination
import SqlMapper.Proofs.InclusionCycles
import SqlMapper.Proofs.ClauseWords
import SqlMapper.Proofs.ClauseSetting
import SqlMapper.Document.NormalForm
import SqlMapper.Proofs.WrittenMarkup
import SqlMapper.Proofs.PrintedDocuments
import SqlMapper.Query.Traversal
import SqlMapper.Proofs.Likeness
import SqlMapper.Proofs.SessionReuse
import SqlMapper.Proofs.PrunedContent
import SqlMapper.Proofs.Reflow
import SqlMapper.Proofs.Reformatting
import SqlMapper.Proofs.TemplateText
import SqlMapper.Proofs.Effect
import SqlMapper.Proofs.MergedText
import SqlMapper.Proofs.Concatenation
import SqlMapper.Proofs.Confinement
import SqlMapper.Proofs.ParsedDocuments
import SqlMapper.Proofs.PassedCheck
import SqlMapper.Proofs.Spans
import SqlMapper.Proofs.ExpressionForm
import SqlMapper.Proofs.PrintedExpressions
import SqlMapper.Proofs.Comparison
import SqlMapper.Proofs.Rounding
import SqlMapper.Proofs.WholeNumberTests
import SqlMapper.Proofs.GuardedConditions
import SqlMapper.Proofs.ChoiceGrammar
import SqlMapper.Proofs.DirectiveGrammar
import SqlMapper.Proofs.StatementPlaces
import SqlMapper.Proofs.TextSpellings
import SqlMapper.Proofs.Listing
import SqlMapper.Proofs.ReferenceAgreement
import SqlMapper.Proofs.LetterCase
import SqlMapper.Markup.Event
import SqlMapper.Proofs.EventReading
import SqlMapper.Proofs.OpenElements
import SqlMapper.Proofs.VariableFiles
import SqlMapper.Proofs.DecimalForms
import SqlMapper.Proofs.NumericMode
import SqlMapper.Proofs.WrittenVariables
import SqlMapper.Proofs.ShortestDecimals
import SqlMapper.Proofs.ScalarTexts
import SqlMapper.Proofs.RecordHistory
import SqlMapper.Proofs.ParameterOverlay
import SqlMapper.Proofs.QueryIds
import SqlMapper.Proofs.WholeWords
import SqlMapper.Proofs.FlattenedTexts
