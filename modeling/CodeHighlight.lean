import CodeHighlight.CommandLine.Disk
import CodeHighlight.Json.Reader
import CodeHighlight.Main
import CodeHighlight.Proofs.Block.Agreement
import CodeHighlight.Proofs.Block.Closing
import CodeHighlight.Proofs.Block.Bundle
import CodeHighlight.Proofs.Block.Markup
import CodeHighlight.Proofs.Document.Outline
import CodeHighlight.Proofs.Document.Tree
import CodeHighlight.Proofs.Highlighter.Blocks
import CodeHighlight.Proofs.Highlighter.Run
import CodeHighlight.Proofs.Highlighter.Rerun
import CodeHighlight.Proofs.Highlighter.Transform
import CodeHighlight.Proofs.Lexer.Registry
import CodeHighlight.Proofs.Language.Memory
import CodeHighlight.Proofs.Directives.Meta
import CodeHighlight.Proofs.Text.Position
import CodeHighlight.Proofs.Highlighter.Course
import CodeHighlight.Proofs.Document.Graph
import CodeHighlight.Proofs.Highlighter.SharedBlocks
import CodeHighlight.Proofs.Document.Insert
import CodeHighlight.Proofs.Document.Segment
import CodeHighlight.Proofs.Highlighter.Actions
import CodeHighlight.Proofs.Highlighter.Markup
import CodeHighlight.Proofs.Text.Case
import CodeHighlight.Proofs.Highlighter.Session
import CodeHighlight.Proofs.Highlighter.Labels
import CodeHighlight.Proofs.Markdown.Tree
import CodeHighlight.Proofs.FrontMatter.Outcome
import CodeHighlight.Proofs.LineSet.Members
import CodeHighlight.Proofs.LineSet.Selected
import CodeHighlight.Proofs.Directives.Group
import CodeHighlight.Proofs.Directives.Numbering
import CodeHighlight.Proofs.Directives.Kept
import CodeHighlight.Proofs.Block.Tiling
import CodeHighlight.Proofs.Block.Features
import CodeHighlight.Proofs.Fault.Origins
import CodeHighlight.Proofs.Language.PlainText
import CodeHighlight.Proofs.Lexer.History
import CodeHighlight.Proofs.Markdown.Content
import CodeHighlight.Proofs.Highlighter.Discovery
import CodeHighlight.Proofs.Fault.Messages
import CodeHighlight.Proofs.CommandLine.State
import CodeHighlight.Proofs.Settings.Override
import CodeHighlight.Proofs.Yaml.Circle
