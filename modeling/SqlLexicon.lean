import SqlLexicon.Proofs.Lexicon.Dispatch
import SqlLexicon.Proofs.Lexicon.Extension
import SqlLexicon.Proofs.Lexicon.Listing
import SqlLexicon.Proofs.Lexicon.Loosening
import SqlLexicon.Proofs.Lexicon.WholeWord
import SqlLexicon.Proofs.Name.CaseFolding
import SqlLexicon.Proofs.Name.Diagnosis
import SqlLexicon.Proofs.Name.Rewriting
import SqlLexicon.Proofs.Request.Events
import SqlLexicon.Proofs.Session.LastSet
import SqlLexicon.Proofs.Settings.Acceptance
import SqlLexicon.Proofs.Settings.Blame
import SqlLexicon.Proofs.Span.Agreement
import SqlLexicon.Proofs.Span.Cutting
import SqlLexicon.Proofs.Span.Nesting
