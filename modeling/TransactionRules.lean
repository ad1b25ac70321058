import TransactionRules.Number.Notation
import TransactionRules.Text.Space
import TransactionRules.Text.Identifier
import TransactionRules.Text.Printable
import TransactionRules.Value.Order
import TransactionRules.Condition.Token
import TransactionRules.Condition.Normal
import TransactionRules.Text.Normalization
import TransactionRules.Expression.Lexeme
import TransactionRules.Expression.Grammar
import TransactionRules.Condition.Basic
import TransactionRules.Json.Reader
import TransactionRules.Json.Writer
import TransactionRules.Rule.Fingerprint
import TransactionRules.Summary
import TransactionRules.RuleSet.Compiler
import TransactionRules.RuleSet.Cache
import TransactionRules.Rule.Shelf
import TransactionRules.Text.Case
import TransactionRules.Settings.Basic
import TransactionRules.Engine.Registry
import TransactionRules.Logging
import TransactionRules.Store.Rules
import TransactionRules.Store.Transactions
import TransactionRules.Store.Statement
import TransactionRules.Store.Seed
import TransactionRules.Classifier
import TransactionRules.CommandLine.App
import TransactionRules.Initialization
import TransactionRules.Main
import TransactionRules.Proofs.Fingerprint
import TransactionRules.Proofs.StoreOrder
import TransactionRules.Proofs.Compilation
import TransactionRules.Proofs.CompilerRuns
import TransactionRules.Proofs.RuleOrder
import TransactionRules.Proofs.Anonymous
import TransactionRules.Proofs.CacheTransparency
import TransactionRules.Proofs.Salience
import TransactionRules.Proofs.Agenda
import TransactionRules.Proofs.Refraction
import TransactionRules.Proofs.Bookkeeping
import TransactionRules.Proofs.RecogniseAct
import TransactionRules.Proofs.Projection
import TransactionRules.Proofs.Batches
import TransactionRules.Proofs.Policies
import TransactionRules.Proofs.SilentRules
import TransactionRules.Proofs.NormalForms
import TransactionRules.Proofs.NumberTokens
import TransactionRules.Proofs.TokenLexemes
import TransactionRules.Proofs.StrayQuotes
import TransactionRules.Proofs.ClassifierRuns
import TransactionRules.Proofs.Numerals
import TransactionRules.Proofs.Signs
import TransactionRules.Proofs.Phrases
import TransactionRules.Proofs.Meanings
import TransactionRules.Proofs.Precedence
import TransactionRules.Proofs.ConditionTexts
import TransactionRules.Proofs.TypeSafety
import TransactionRules.Proofs.Renderings
import TransactionRules.Proofs.Digests
import TransactionRules.Proofs.CacheChanges
import TransactionRules.Proofs.Changes
import TransactionRules.Proofs.RefusedWrites
import TransactionRules.Proofs.MissingCategories
import TransactionRules.Proofs.RuleBooks
import TransactionRules.Proofs.StoredRules
import TransactionRules.Proofs.RuleListings
import TransactionRules.Proofs.WholeFloats
import TransactionRules.Proofs.SavedBatches
import TransactionRules.Proofs.Labels
import TransactionRules.Proofs.Reports
import TransactionRules.Proofs.CommandWork
import TransactionRules.Proofs.FailedCommands
import TransactionRules.Proofs.Summaries
import TransactionRules.Proofs.ProgramTexts
import TransactionRules.Proofs.RegisteredEngines
import TransactionRules.Proofs.Seeds
import TransactionRules.Proofs.Equivalences
import TransactionRules.Proofs.TokenEnds
import TransactionRules.Proofs.Spacing
import TransactionRules.Proofs.NormalTokens
import TransactionRules.Proofs.BracketedRows
import TransactionRules.Proofs.Conjunctions
import TransactionRules.Proofs.Constraints
import TransactionRules.Proofs.CommaLists
import TransactionRules.Proofs.LiteralTexts
import TransactionRules.Proofs.Snapshots
import TransactionRules.Proofs.SavedTransactions
import TransactionRules.Proofs.RuleSequences
import TransactionRules.Proofs.Comments
import TransactionRules.Proofs.Overrides
