import FeatureDocs.Document.Session
import FeatureDocs.Main
import FeatureDocs.Proofs.Acceptance
import FeatureDocs.Proofs.Totality
import FeatureDocs.Proofs.Concatenation
import FeatureDocs.Proofs.Independence
import FeatureDocs.Proofs.Finality
import FeatureDocs.Proofs.Completion
import FeatureDocs.Proofs.Positions
import FeatureDocs.Proofs.WellFormed
import FeatureDocs.Proofs.BlankLines
import FeatureDocs.Proofs.Indentation
import FeatureDocs.Proofs.Translation
import FeatureDocs.Proofs.DocStrings
import FeatureDocs.Proofs.LookAhead
import FeatureDocs.Proofs.Headers
import FeatureDocs.Proofs.Sessions
import FeatureDocs.Proofs.Json
import FeatureDocs.Proofs.Summaries
import FeatureDocs.Proofs.Trees
import FeatureDocs.Proofs.Changes
import FeatureDocs.Proofs.Globs
import FeatureDocs.Proofs.Suites
import FeatureDocs.Proofs.Coverage
import FeatureDocs.Proofs.Commands
import FeatureDocs.Proofs.Tables
import FeatureDocs.Proofs.Lines
import FeatureDocs.Proofs.Merging
import FeatureDocs.Proofs.Precedence
import FeatureDocs.Proofs.Uniqueness
import FeatureDocs.Proofs.Expansion
import FeatureDocs.Proofs.Registries
import FeatureDocs.Proofs.Pieces
import FeatureDocs.Proofs.Datasets
import FeatureDocs.Proofs.LetterCase
import FeatureDocs.Proofs.Columns
import FeatureDocs.Proofs.Reports
