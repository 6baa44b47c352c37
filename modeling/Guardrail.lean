import Guardrail.Audit.Entry
import Guardrail.Audit.Record
import Guardrail.Checksum.Iban
import Guardrail.Checksum.Luhn
import Guardrail.Command.Invocation
import Guardrail.Command.Report
import Guardrail.Command.Run
import Guardrail.Command.Switch
import Guardrail.Config.Error
import Guardrail.Config.Scoring
import Guardrail.Config.Source
import Guardrail.Decimal.Shortest
import Guardrail.Decimal.Text
import Guardrail.Decode.Basic
import Guardrail.Decode.Fault
import Guardrail.Decode.Plain
import Guardrail.Detect.Activity
import Guardrail.Detect.Basic
import Guardrail.Detect.Injection
import Guardrail.Detect.Leak
import Guardrail.Detect.Pii
import Guardrail.Detect.Validation
import Guardrail.Digest.Sha256
import Guardrail.Duration
import Guardrail.Engine
import Guardrail.Finding.Basic
import Guardrail.Finding.Overlap
import Guardrail.Finding.Redact
import Guardrail.Finding.Risk
import Guardrail.Guard.Assessment
import Guardrail.Guard.Input
import Guardrail.Guard.Output
import Guardrail.Guard.State
import Guardrail.Json.Basic
import Guardrail.Json.Document
import Guardrail.Json.Exact
import Guardrail.Json.Printer
import Guardrail.Json.Reader
import Guardrail.Keyed
import Guardrail.Main
import Guardrail.Pattern.Program
import Guardrail.Pattern.Reader
import Guardrail.Pattern.Search
import Guardrail.Pattern.Dialect
import Guardrail.Pattern.Syntax
import Guardrail.Pipeline
import Guardrail.Proofs.Acceptance
import Guardrail.Proofs.Blocking
import Guardrail.Proofs.Counters
import Guardrail.Proofs.Critical
import Guardrail.Proofs.Decisions
import Guardrail.Proofs.DoubleOrder
import Guardrail.Proofs.Fallbacks
import Guardrail.Proofs.InputStage
import Guardrail.Proofs.Maps
import Guardrail.Proofs.Matches
import Guardrail.Proofs.Overlaps
import Guardrail.Proofs.Panels
import Guardrail.Proofs.Places
import Guardrail.Proofs.Probe
import Guardrail.Proofs.Redaction
import Guardrail.Proofs.Reports
import Guardrail.Proofs.Selection
import Guardrail.Proofs.Stages
import Guardrail.Proofs.Veiled
import Guardrail.Provider.Basic
import Guardrail.Provider.Credential
import Guardrail.Provider.Endpoint
import Guardrail.Provider.Usage
import Guardrail.Request
import Guardrail.Risk.Aggregate
import Guardrail.Risk.Layer
import Guardrail.Risk.Level
import Guardrail.Risk.Score
import Guardrail.Rules.Builtin
import Guardrail.Rules.Definition
import Guardrail.Rules.RuleSet
import Guardrail.Scalar
import Guardrail.Schema.Draft
import Guardrail.Schema.Pattern
import Guardrail.Schema.Reference
import Guardrail.Schema.Shape
import Guardrail.Schema.Violation
import Guardrail.Schema.Checker
import Guardrail.Shadow.Agent
import Guardrail.Shadow.Breaker
import Guardrail.Shadow.Cache
import Guardrail.Shadow.Config
import Guardrail.Shadow.Escalation
import Guardrail.Shadow.Outcome
import Guardrail.Shadow.Panel
import Guardrail.Shadow.Prompt
import Guardrail.Shadow.Result
import Guardrail.Shadow.Session
import Guardrail.Shadow.Verdict
import Guardrail.Simulation
import Guardrail.Text.Bytes
import Guardrail.Text.Quoted
import Guardrail.Text.Trim
import Guardrail.Text.Words
import Guardrail.Trust.Ledger
import Guardrail.Unicode.Case
import Guardrail.Unicode.Category
import Guardrail.Unicode.Class
import Guardrail.Unicode.Ranges
import Guardrail.Unicode.Script
import Guardrail.Yaml.Node
import Guardrail.Yaml.Printer
import Guardrail.Yaml.Token
import Guardrail.Proofs.ShortestDigits
import Guardrail.Proofs.NumberText
import Guardrail.Proofs.JsonText
import Guardrail.Proofs.CacheKeys
import Guardrail.Proofs.Decoded
import Guardrail.Proofs.Remembered
import Guardrail.Proofs.ProbeSlot
import Guardrail.Proofs.OpenWindow
import Guardrail.Proofs.Isolation
import Guardrail.Proofs.Accounts
import Guardrail.Proofs.ScoreOrder
import Guardrail.Proofs.Forgetting
import Guardrail.Proofs.Exchange
import Guardrail.Proofs.Expressions
import Guardrail.Proofs.Exploring
import Guardrail.Proofs.CardPattern
import Guardrail.Proofs.CardNumbers
import Guardrail.Proofs.Exact
import Guardrail.Proofs.Shares
import Guardrail.Proofs.Raising
import Guardrail.Proofs.InRange
import Guardrail.Proofs.TrustHistory
import Guardrail.Proofs.Resolution
import Guardrail.Proofs.RuleOrder
import Guardrail.Proofs.RuleTexts
import Guardrail.Proofs.Boundaries
import Guardrail.Proofs.Labelling
import Guardrail.Proofs.Hiding
import Guardrail.Proofs.Words
import Guardrail.Proofs.Echoes
import Guardrail.Proofs.Located
import Guardrail.Proofs.Repetition
import Guardrail.Proofs.Signatures
import Guardrail.Proofs.StageScores
import Guardrail.Proofs.Faults
import Guardrail.Proofs.CheckDigits
import Guardrail.Proofs.AccountNumbers
import Guardrail.Proofs.Bands
import Guardrail.Proofs.Verdicts
import Guardrail.Proofs.RuleReports
import Guardrail.Proofs.DoubleSums
import Guardrail.Proofs.Fences
import Guardrail.Proofs.AuditRecords
import Guardrail.Proofs.LogWriters
import Guardrail.Proofs.Rereading
import Guardrail.Proofs.AuditLog
