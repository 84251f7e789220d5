/-!
# Help texts

What is printed for a request for help, on lines of at most eighty characters.

## Main definitions

* `Help.main`: the help for the program.
* `Help.lint`, `Help.fix`, `Help.status`: the help for its commands.
-/

namespace ProjectLint.CommandLine.Help

/-- Lines, each with a line feed at its end. -/
def page (lines : List String) : String := String.join (lines.map fun l => l ++ "\n")

/-- The help for the program. -/
def main : String := page [
  "usage: lintbridge [-h] [--version] [--debug] [--verbose] [--quiet]",
  "                  \x7blint,fix,status\x7d ...",
  "",
  "lintbridge - run a project's linter and report structured diagnostics.",
  "",
  "options:",
  "  -h, --help         show this help message and exit",
  "  --version          Show lintbridge version and exit.",
  "  --debug            Enable debug logging.",
  "  --verbose, -v      Enable verbose (info-level) logging.",
  "  --quiet, -q        Reduce logging output to errors only.",
  "",
  "commands:",
  "  \x7blint,fix,status\x7d",
  "    lint             Lint a file and print the diagnostics.",
  "    fix              Apply automatic fixes to a file.",
  "    status           Show how lintbridge resolves a project."]

/-- The help for the command that checks a file. -/
def lint : String := page [
  "usage: lintbridge lint [-h] [--root ROOT] [--runtime RUNTIME]",
  "                       [--config CONFIG] [--format \x7bjson,text\x7d]",
  "                       file",
  "",
  "Run the project's linter on one file and report its findings.",
  "",
  "positional arguments:",
  "  file                  File to lint.",
  "",
  "options:",
  "  -h, --help            show this help message and exit",
  "  --root ROOT           Project root directory (default: current directory).",
  "  --runtime RUNTIME     Runtime used to execute the linter (default: from",
  "                        config, 'node').",
  "  --config CONFIG       Path to a lintbridge config file (overrides",
  "                        .lintbridge.yml).",
  "  --format \x7bjson,text\x7d  Output format (default: json)."]

/-- The help for the command that corrects a file. -/
def fix : String := page [
  "usage: lintbridge fix [-h] [--root ROOT] [--runtime RUNTIME] [--config CONFIG]",
  "                      file",
  "",
  "Run the project's linter in fix mode on one file.",
  "",
  "positional arguments:",
  "  file               File to fix.",
  "",
  "options:",
  "  -h, --help         show this help message and exit",
  "  --root ROOT        Project root directory (default: current directory).",
  "  --runtime RUNTIME  Runtime used to execute the linter (default: from config,",
  "                     'node').",
  "  --config CONFIG    Path to a lintbridge config file (overrides",
  "                     .lintbridge.yml)."]

/-- The help for the command that shows how a project is resolved. -/
def status : String := page [
  "usage: lintbridge status [-h] [--root ROOT] [--runtime RUNTIME]",
  "                         [--config CONFIG]",
  "",
  "Print the linter executable, version and module path used for a project.",
  "",
  "options:",
  "  -h, --help         show this help message and exit",
  "  --root ROOT        Project root directory (default: current directory).",
  "  --runtime RUNTIME  Runtime used to execute the linter (default: from config,",
  "                     'node').",
  "  --config CONFIG    Path to a lintbridge config file (overrides",
  "                     .lintbridge.yml)."]

end ProjectLint.CommandLine.Help
