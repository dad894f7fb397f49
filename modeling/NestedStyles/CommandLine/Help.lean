import NestedStyles.Text.Basic

/-!
The help on the command line.
-/

set_option autoImplicit false

namespace NestedStyles

namespace CommandLine

def helpLines : List Text := [
  "usage: twcss-to-sass [-h] [-o OUTPUT] [--no-format] [--use-comments]".toList,
  "                     [--max-length MAX_LENGTH] [--no-comments]".toList,
  "                     [--prefix PREFIX] [--suffix SUFFIX]".toList,
  "                     [--replace-with REPLACE_WITH] [--keep-case]".toList,
  "                     [--indent-size INDENT_SIZE] [--threads THREADS] [-v]".toList,
  "                     input_paths [input_paths ...]".toList,
  [],
  "Converts HTML with utility classes and inline styles to nested SCSS.".toList,
  [],
  "positional arguments:".toList,
  "  input_paths           Input .html files or/and folders separated by a space.".toList,
  "                        Use '-' to read from stdin.".toList,
  [],
  "options:".toList,
  "  -h, --help            show this help message and exit".toList,
  "  -o OUTPUT, --output OUTPUT".toList,
  "                        Output folder or filename (for single input). If".toList,
  "                        omitted, each output is placed next to the input file.".toList,
  "                        (default: None)".toList,
  "  --no-format           Print raw, unformatted SCSS. (default: False)".toList,
  "  --use-comments        Use the HTML comments before an element as its class".toList,
  "                        name. (default: False)".toList,
  "  --max-length MAX_LENGTH".toList,
  "                        Maximum length of class names generated from comments.".toList,
  "                        (default: 50)".toList,
  "  --no-comments         Don't print descriptive comments before selectors.".toList,
  "                        (default: False)".toList,
  "  --prefix PREFIX       Prefix for class names generated from comments.".toList,
  "                        (default: )".toList,
  "  --suffix SUFFIX       Suffix for class names generated from comments.".toList,
  "                        (default: )".toList,
  "  --replace-with REPLACE_WITH".toList,
  "                        Separator used when slugifying comments. (default: -)".toList,
  "  --keep-case           Don't lowercase class names generated from comments.".toList,
  "                        (default: False)".toList,
  "  --indent-size INDENT_SIZE".toList,
  "                        Indentation width of the output. (default: 4)".toList,
  "  --threads THREADS     Number of parallel workers to use for conversion. 0 to".toList,
  "                        use max. (default: 0)".toList,
  "  -v, --verbose         Show info messages on the console. (default: False)".toList]

def help : Text :=
  (helpLines.map (· ++ ['\n'])).flatten

end CommandLine

end NestedStyles
