import HotReload.Action
import HotReload.Build
import HotReload.CommandLine.Arguments
import HotReload.CommandLine.Disk
import HotReload.CommandLine.Reply
import HotReload.Config
import HotReload.Content
import HotReload.Difference
import HotReload.Entry
import HotReload.Failure
import HotReload.Files.Path
import HotReload.Files.Tree
import HotReload.Html
import HotReload.Json
import HotReload.Label
import HotReload.Main
import HotReload.Navigation
import HotReload.Outline
import HotReload.Page
import HotReload.Proofs.Acceptance
import HotReload.Proofs.Accounting
import HotReload.Proofs.CheckedCuts
import HotReload.Proofs.Comments
import HotReload.Proofs.CompiledEntries
import HotReload.Proofs.Console
import HotReload.Proofs.Containment
import HotReload.Proofs.Course
import HotReload.Proofs.Declarations
import HotReload.Proofs.Dividers
import HotReload.Proofs.DueLoop
import HotReload.Proofs.EntryFate
import HotReload.Proofs.EntryOrder
import HotReload.Proofs.Execution
import HotReload.Proofs.Expectations
import HotReload.Proofs.FailureSpans
import HotReload.Proofs.FileContent
import HotReload.Proofs.FirstFailure
import HotReload.Proofs.FirstFiles
import HotReload.Proofs.FlushedSpec
import HotReload.Proofs.Gaps
import HotReload.Proofs.InitialLabel
import HotReload.Proofs.IntegerLabels
import HotReload.Proofs.KeptLines
import HotReload.Proofs.LabelOrder
import HotReload.Proofs.LateLabels
import HotReload.Proofs.LineTerminators
import HotReload.Proofs.ManyFiles
import HotReload.Proofs.MarkedText
import HotReload.Proofs.Markers
import HotReload.Proofs.Moves
import HotReload.Proofs.OutputLoss
import HotReload.Proofs.OwnUpdate
import HotReload.Proofs.PageInsertion
import HotReload.Proofs.PageView
import HotReload.Proofs.Paths
import HotReload.Proofs.Placeholders
import HotReload.Proofs.Places
import HotReload.Proofs.Playing
import HotReload.Proofs.Preparation
import HotReload.Proofs.Relayout
import HotReload.Proofs.Release
import HotReload.Proofs.Respacing
import HotReload.Proofs.RootedNavigation
import HotReload.Proofs.ServedFiles
import HotReload.Proofs.SharedText
import HotReload.Proofs.Shift
import HotReload.Proofs.SingleStart
import HotReload.Proofs.SkipForward
import HotReload.Proofs.SoundStandings
import HotReload.Proofs.SpecRegistration
import HotReload.Proofs.SpecSession
import HotReload.Proofs.SpecVerdict
import HotReload.Proofs.Standstill
import HotReload.Proofs.StepBlocks
import HotReload.Proofs.Tables
import HotReload.Proofs.TotalOrder
import HotReload.Proofs.TreeShape
import HotReload.Rehearsal.Recipe
import HotReload.Rehearsal.Script
import HotReload.Rehearsal.Stage
import HotReload.Session.Command
import HotReload.Session.Invocation
import HotReload.Session.Procedure
import HotReload.Session.Runner
import HotReload.Session.State
import HotReload.Spec.Compiled
import HotReload.Spec.Directive
import HotReload.Spec.Document
import HotReload.Spec.Printed
import HotReload.Spec.Reader
import HotReload.Spec.Steps
import HotReload.Spec.Token
import HotReload.Table
import HotReload.Text.Blank
import HotReload.Text.Extender
import HotReload.Text.Form
import HotReload.Text.Lines
import HotReload.Text.Numeral
import HotReload.Text.Quoted
import HotReload.Text.Unprinted
import HotReload.Url.Basic
import HotReload.Url.Host
import HotReload.Url.Library
import HotReload.Url.Percent
import HotReload.Url.Reader
import HotReload.Yaml.Block
import HotReload.Yaml.Kind
import HotReload.Yaml.Scalar
