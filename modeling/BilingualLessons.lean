import BilingualLessons.CommandLine
import BilingualLessons.DataFault
import BilingualLessons.Decimal.Binary64
import BilingualLessons.Decimal.Shortest
import BilingualLessons.Direction
import BilingualLessons.Grammar.Catalogue
import BilingualLessons.Grammar.Concept
import BilingualLessons.Json.Reader
import BilingualLessons.Json.Value
import BilingualLessons.Json.Writer
import BilingualLessons.Lesson.Basic
import BilingualLessons.Lesson.Contextual
import BilingualLessons.Lesson.Fault
import BilingualLessons.Lesson.Generation
import BilingualLessons.Lesson.Grammatical
import BilingualLessons.Lesson.Planner
import BilingualLessons.Lesson.Request
import BilingualLessons.Lesson.Section
import BilingualLessons.Lesson.Setup
import BilingualLessons.Lesson.Thematic
import BilingualLessons.Lesson.WordChoice
import BilingualLessons.LessonKind
import BilingualLessons.LessonTemplate.Basic
import BilingualLessons.LessonTemplate.Contract
import BilingualLessons.LessonTemplate.Rule
import BilingualLessons.LessonTemplate.Shelf
import BilingualLessons.LessonTemplate.Variable
import BilingualLessons.Level
import BilingualLessons.Loading.FileTree
import BilingualLessons.Loading.Report
import BilingualLessons.Loading.Repository
import BilingualLessons.Loading.Source
import BilingualLessons.Loading.Walk
import BilingualLessons.Main
import BilingualLessons.PartOfSpeech
import BilingualLessons.Proofs.CommandLine.Flags
import BilingualLessons.Proofs.Decimal.Characters
import BilingualLessons.Proofs.Grammar.Completeness
import BilingualLessons.Proofs.Grammar.Identity
import BilingualLessons.Proofs.Grammar.Served
import BilingualLessons.Proofs.Json.Keys
import BilingualLessons.Proofs.Json.Nulls
import BilingualLessons.Proofs.Json.Order
import BilingualLessons.Proofs.Json.Parts
import BilingualLessons.Proofs.Lesson.Attempts
import BilingualLessons.Proofs.Lesson.BestEffort
import BilingualLessons.Proofs.Lesson.Conformity
import BilingualLessons.Proofs.Lesson.ExampleWords
import BilingualLessons.Proofs.Lesson.FallbackLesson
import BilingualLessons.Proofs.Lesson.Planning
import BilingualLessons.Proofs.Lesson.Repetition
import BilingualLessons.Proofs.Lesson.Selection
import BilingualLessons.Proofs.Lesson.Shares
import BilingualLessons.Proofs.Lesson.Words
import BilingualLessons.Proofs.LessonTemplate.Defaults
import BilingualLessons.Proofs.LessonTemplate.Index
import BilingualLessons.Proofs.LessonTemplate.Selection
import BilingualLessons.Proofs.LessonTemplate.Served
import BilingualLessons.Proofs.LessonTemplate.Sufficiency
import BilingualLessons.Proofs.LessonTemplate.Validity
import BilingualLessons.Proofs.Loading.Acceptance
import BilingualLessons.Proofs.Loading.Collections
import BilingualLessons.Proofs.Loading.Directories
import BilingualLessons.Proofs.Loading.Reloading
import BilingualLessons.Proofs.Outcome
import BilingualLessons.Proofs.Record.Concepts
import BilingualLessons.Proofs.Record.Items
import BilingualLessons.Proofs.Record.Names
import BilingualLessons.Proofs.Record.Reading
import BilingualLessons.Proofs.Record.Requests
import BilingualLessons.Proofs.Record.RoundTrip
import BilingualLessons.Proofs.Record.Templates
import BilingualLessons.Proofs.Template.Agreement
import BilingualLessons.Proofs.Template.BlockGrammar
import BilingualLessons.Proofs.Template.BlockSource
import BilingualLessons.Proofs.Template.Braces
import BilingualLessons.Proofs.Template.Branches
import BilingualLessons.Proofs.Template.CanonicalTokens
import BilingualLessons.Proofs.Template.Concatenation
import BilingualLessons.Proofs.Template.Escaping
import BilingualLessons.Proofs.Template.FaultPlaces
import BilingualLessons.Proofs.Template.HidingNulls
import BilingualLessons.Proofs.Template.Incomplete
import BilingualLessons.Proofs.Template.LeftoverTags
import BilingualLessons.Proofs.Template.LoopNames
import BilingualLessons.Proofs.Template.LoopUnrolling
import BilingualLessons.Proofs.Template.MergedScope
import BilingualLessons.Proofs.Template.NamedKeys
import BilingualLessons.Proofs.Template.Pasting
import BilingualLessons.Proofs.Template.PathCharacters
import BilingualLessons.Proofs.Template.Reading
import BilingualLessons.Proofs.Template.ReadingFaults
import BilingualLessons.Proofs.Template.Relocation
import BilingualLessons.Proofs.Template.RenderFaults
import BilingualLessons.Proofs.Template.Resolution
import BilingualLessons.Proofs.Template.Scanning
import BilingualLessons.Proofs.Template.ScopeParts
import BilingualLessons.Proofs.Template.Spelling
import BilingualLessons.Proofs.Template.Success
import BilingualLessons.Proofs.Template.Tag
import BilingualLessons.Proofs.Template.TagPlaces
import BilingualLessons.Proofs.Template.TokenContents
import BilingualLessons.Proofs.Template.TokenJoin
import BilingualLessons.Proofs.Text.Names
import BilingualLessons.Proofs.Text.Padding
import BilingualLessons.Proofs.Text.Surroundings
import BilingualLessons.Proofs.Vocabulary.Answers
import BilingualLessons.Proofs.Vocabulary.Lookups
import BilingualLessons.Proofs.Vocabulary.Notes
import BilingualLessons.Proofs.Vocabulary.Paging
import BilingualLessons.Proofs.Vocabulary.Substrings
import BilingualLessons.Record.Decode
import BilingualLessons.Record.Misfit
import BilingualLessons.Record.Shape
import BilingualLessons.Settings.Basic
import BilingualLessons.Settings.Reading
import BilingualLessons.Table
import BilingualLessons.Template.Block
import BilingualLessons.Template.Context
import BilingualLessons.Template.Fault
import BilingualLessons.Template.Path
import BilingualLessons.Template.Render
import BilingualLessons.Template.Scalar
import BilingualLessons.Template.Scope
import BilingualLessons.Template.Token
import BilingualLessons.Text.Blank
import BilingualLessons.Text.LetterCase
import BilingualLessons.Text.LetterCaseData
import BilingualLessons.Text.Quoted
import BilingualLessons.Text.UnprintableData
import BilingualLessons.Timestamp
import BilingualLessons.Toml.Document
import BilingualLessons.Toml.Reader
import BilingualLessons.Toml.Scalar
import BilingualLessons.Toml.Table
import BilingualLessons.Toml.Text
import BilingualLessons.Uuid
import BilingualLessons.Vocabulary.Item
import BilingualLessons.Vocabulary.Loading
import BilingualLessons.Vocabulary.Notes
import BilingualLessons.Vocabulary.Provider
import BilingualLessons.Vocabulary.Query
import BilingualLessons.Vocabulary.Sample
import BilingualLessons.Vocabulary.Store
