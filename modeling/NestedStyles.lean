import NestedStyles.Main
import NestedStyles.Proofs.Outline.StyledPart
import NestedStyles.Proofs.Stylesheet.Blocks
import NestedStyles.Proofs.Stylesheet.ClassLists
import NestedStyles.Proofs.Batch.Calls
import NestedStyles.Proofs.Batch.Completion
import NestedStyles.Proofs.Files.Growth
import NestedStyles.Proofs.Batch.Outputs
import NestedStyles.Proofs.Text.Weaving
import NestedStyles.Proofs.Stylesheet.Laying
import NestedStyles.Proofs.Stylesheet.Onward
import NestedStyles.Proofs.Stylesheet.LayingPieces
import NestedStyles.Proofs.Stylesheet.LayingText
import NestedStyles.Proofs.Stylesheet.Printing
import NestedStyles.Proofs.Stylesheet.Sturdy
import NestedStyles.Proofs.Stylesheet.Spelling
import NestedStyles.Proofs.Stylesheet.Formatting
import NestedStyles.Proofs.Stylesheet.Placing
import NestedStyles.Proofs.Outline.Entries
import NestedStyles.Proofs.Conversion
import NestedStyles.Proofs.Stylesheet.Skipping
import NestedStyles.Proofs.Stylesheet.Headers
import NestedStyles.Proofs.Stylesheet.Skeleton
import NestedStyles.Proofs.Markup.ElementNames
import NestedStyles.Proofs.CommandLine.Progress
import NestedStyles.Proofs.Stylesheet.TidiedMarks
import NestedStyles.Proofs.Stylesheet.Respacing
import NestedStyles.Proofs.Stylesheet.OnePass
import NestedStyles.Proofs.Stylesheet.Titles
import NestedStyles.Proofs.Outline.Seams
import NestedStyles.Proofs.Stylesheet.ClassNames
import NestedStyles.Proofs.CommandLine.Folders
import NestedStyles.Proofs.CommandLine.Spellings
import NestedStyles.Proofs.Files.AllOrNothing
import NestedStyles.Proofs.CommandLine.Expressing
import NestedStyles.Proofs.Settings.Overlaying
import NestedStyles.Proofs.Text.CommentMarks
import NestedStyles.Proofs.CommandLine.Rotation
import NestedStyles.Proofs.Markup.ByteOrderMark
import NestedStyles.Proofs.Markup.Content
