import PatternAssembly.CharSet.Turns
import PatternAssembly.CharSet
import PatternAssembly.CharSet.Bytes
import PatternAssembly.CharSet.Memory
import PatternAssembly.Unicode.Folding
import PatternAssembly.Unicode.Word
import PatternAssembly.Unicode.Category
import PatternAssembly.Unicode.Binary
import PatternAssembly.Unicode.Recent
import PatternAssembly.Unicode.Break
import PatternAssembly.Unicode.Age
import PatternAssembly.Unicode.Script
import PatternAssembly.Unicode.Property
import PatternAssembly.Text.Lines
import PatternAssembly.Tree.Basic
import PatternAssembly.Tree.Fault
import PatternAssembly.Tree.Cursor
import PatternAssembly.Tree.Atom
import PatternAssembly.Tree.Bracket
import PatternAssembly.Tree.Group
import PatternAssembly.Tree.Count
import PatternAssembly.Tree.Reader
import PatternAssembly.Tree.Depth
import PatternAssembly.Expr
import PatternAssembly.Expr.Simplified
import PatternAssembly.Expr.Memory
import PatternAssembly.Expr.OfTree
import PatternAssembly.Program
import PatternAssembly.Program.Search
import PatternAssembly.Program.Matches
import PatternAssembly.Template
import PatternAssembly.Text.Quoted
import PatternAssembly.Flags
import PatternAssembly.Matcher
import PatternAssembly.Journal
import PatternAssembly.Engine
import PatternAssembly.Pattern
import PatternAssembly.Pattern.Search
import PatternAssembly.Session
import PatternAssembly.CommandLine.Arguments
import PatternAssembly.CommandLine.Filter
import PatternAssembly.Main
import PatternAssembly.Proofs.Program.Reaches
import PatternAssembly.Proofs.Program.Ordered
import PatternAssembly.Proofs.Program.Scan
import PatternAssembly.Proofs.Expr.Matches
import PatternAssembly.Proofs.Expr.Simplified
import PatternAssembly.Proofs.Program.Layout
import PatternAssembly.Proofs.Text.Lines
import PatternAssembly.Proofs.Text.Validity
import PatternAssembly.Proofs.Text.Windows
import PatternAssembly.Proofs.Text.Anchored
import PatternAssembly.Proofs.Tree.Means
import PatternAssembly.Proofs.Tree.Reading
import PatternAssembly.Proofs.Tree.Signs
import PatternAssembly.Proofs.Tree.Depth
import PatternAssembly.Proofs.Tree.Brackets
import PatternAssembly.Proofs.Tree.Faults
import PatternAssembly.Proofs.Matcher
import PatternAssembly.Proofs.Template
import PatternAssembly.Proofs.Pattern.Searches
import PatternAssembly.Proofs.Pattern.Replacements
import PatternAssembly.Proofs.Pattern.Quantities
import PatternAssembly.Proofs.Pattern.Fragments
import PatternAssembly.Proofs.Pattern.Chains
import PatternAssembly.Proofs.Pattern.Languages
import PatternAssembly.Proofs.Pattern.Items
import PatternAssembly.Proofs.Pattern.Literals
import PatternAssembly.Proofs.Pattern.Anchors
import PatternAssembly.Proofs.CommandLine.Accepted
import PatternAssembly.Proofs.CommandLine.Filter
import PatternAssembly.Proofs.CommandLine.Runs
import PatternAssembly.Proofs.CommandLine.LineByLine
import PatternAssembly.Proofs.CommandLine.Composition
import PatternAssembly.Proofs.CommandLine.Failures
import PatternAssembly.Proofs.CommandLine.Idempotence
import PatternAssembly.Proofs.CommandLine.Occurrences
import PatternAssembly.Proofs.Session
import PatternAssembly.Proofs.Pattern.Assembly
import PatternAssembly.Proofs.Session.Journal
import PatternAssembly.Proofs.Pattern.OpenGroups
import PatternAssembly.Proofs.Pattern.Refusals
import PatternAssembly.Proofs.CommandLine.Spellings
import PatternAssembly.Proofs.CommandLine.Order
import PatternAssembly.Proofs.Text.Segments
import PatternAssembly.Proofs.Pattern.SegmentCounts
import PatternAssembly.Proofs.CommandLine.WholeLines
import PatternAssembly.Proofs.Tree.Extension
import PatternAssembly.Proofs.Tree.BracketExtension
import PatternAssembly.Proofs.Tree.Behind
import PatternAssembly.Proofs.Tree.ModesBehind
import PatternAssembly.Proofs.Pattern.LiteralsBehind
import PatternAssembly.Proofs.Pattern.Found
import PatternAssembly.Proofs.Pattern.Words
import PatternAssembly.Proofs.Pattern.Shapes
import PatternAssembly.Proofs.Pattern.Repetitions
import PatternAssembly.Proofs.Tree.Places
import PatternAssembly.Proofs.Tree.BracketPlaces
import PatternAssembly.Proofs.Tree.BareTrees
import PatternAssembly.Proofs.Tree.LastSign
import PatternAssembly.Proofs.Tree.Inside
import PatternAssembly.Proofs.Pattern.WholeTexts
import PatternAssembly.Proofs.CommandLine.MatchCounts
import PatternAssembly.Proofs.Expr.Memory
import PatternAssembly.Proofs.Pattern.Equality
import PatternAssembly.Proofs.Pattern.Opposites
import PatternAssembly.Proofs.Flags
import PatternAssembly.Proofs.Text.Quoted
import PatternAssembly.Proofs.Pattern.Shown
import PatternAssembly.Proofs.CommandLine.Combinations
