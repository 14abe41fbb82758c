import NovelScript.Cache.Rehearsal
import NovelScript.Main
import NovelScript.Script.Cursor
import NovelScript.Proofs.Script.Action
import NovelScript.Proofs.Script.Loop
import NovelScript.Proofs.Script.Section
import NovelScript.Proofs.Markdown.Shape
import NovelScript.Proofs.Script.Render
import NovelScript.Proofs.Script.Document
import NovelScript.Proofs.Script.Level
import NovelScript.Proofs.Text.Decimal
import NovelScript.Proofs.Markdown.Nesting
import NovelScript.Proofs.Files.Path
import NovelScript.Proofs.Files.Entry
import NovelScript.Proofs.Files.Disk
import NovelScript.Proofs.Files.Atomic
import NovelScript.Proofs.Text.Utf8
import NovelScript.Proofs.Text.Quoted
import NovelScript.Proofs.Script.Setting
import NovelScript.Proofs.Build.Fingerprint
import NovelScript.Proofs.Cache.Handle
import NovelScript.Proofs.Build.Crew
import NovelScript.Proofs.Build.Transparency
import NovelScript.Proofs.Build.Discover
import NovelScript.Proofs.Build.Independence
import NovelScript.Proofs.Build.Schedule
import NovelScript.Proofs.Config.Schema
import NovelScript.Proofs.Build.Output
import NovelScript.Proofs.Cache.History
import NovelScript.Proofs.Cache.Refinement
import NovelScript.Proofs.Text.Space
import NovelScript.Proofs.Config.Save
import NovelScript.Proofs.Script.Ending
import NovelScript.Proofs.Cache.Migration
import NovelScript.Proofs.Files.Standing
import NovelScript.Proofs.Files.Alike
import NovelScript.Proofs.Build.Sweep
import NovelScript.Proofs.Build.Watch
import NovelScript.Proofs.Build.Walk
import NovelScript.Proofs.Build.Mirror
import NovelScript.Proofs.Build.Remote
import NovelScript.Proofs.Build.Again
import NovelScript.Proofs.Script.Literal
import NovelScript.Proofs.Sheet.Wrap
import NovelScript.Proofs.Sheet.Pages
import NovelScript.Proofs.Yaml.Decode
import NovelScript.Proofs.Yaml.Mapping
import NovelScript.Proofs.Config.Precedence
import NovelScript.Proofs.Script.Marks
import NovelScript.Proofs.Text.Case
import NovelScript.Proofs.Script.Speaker
import NovelScript.Proofs.Script.Code
import NovelScript.Proofs.Script.Comment
import NovelScript.Proofs.Markdown.Leaves
import NovelScript.Proofs.Command.Arguments
import NovelScript.Proofs.Number.Calendar
import NovelScript.Proofs.Files.Copies
import NovelScript.Proofs.Files.Backups
import NovelScript.Proofs.Files.Restore
import NovelScript.Proofs.Files.Keeping
import NovelScript.Proofs.Cache.Size
import NovelScript.Proofs.Command.Prune
import NovelScript.Proofs.Script.Remark
import NovelScript.Proofs.Cache.Address
import NovelScript.Proofs.Log.Sharing
import NovelScript.Proofs.Log.Breaks
