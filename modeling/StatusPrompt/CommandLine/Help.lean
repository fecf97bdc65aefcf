import StatusPrompt.Text.Blank

/-!
The texts that the command prints about itself.
-/

namespace StatusPrompt.CommandLine

def versionText : Text := "gitprompt 0.1.0\n".toList

def usageLine : Text := "Usage: gitprompt [OPTIONS]".toList

def helpLines : List Text :=
  ["Git status for your prompt, similar to vcprompt".toList,
    [],
    usageLine,
    [],
    "Options:".toList,
    "  -v, --debug            Print debug messages to stderr".toList,
    "  -d, --dir <DIR>        Git repo location, if not cwd [default: .]".toList,
    "  -f, --format <FORMAT>  Printf-style format string for the prompt".toList,
    "      --raw              Print one field per line for scripts".toList,
    "      --no-tag           Do not look for a tag when HEAD is detached".toList,
    "      --no-color         Disable ANSI colors".toList,
    "      --stash            Check for stashed changes".toList,
    "  -h, --help             Print help".toList,
    "  -V, --version          Print version".toList,
    [],
    "FORMATTING:".toList,
    "  FORMAT may contain:".toList,
    "    %g  branch glyph".toList,
    "    %n  VC name".toList,
    "    %b  branch (or tag when HEAD is detached)".toList,
    "    %r  remote".toList,
    "    %c  abbreviated commit id".toList,
    "    %a  commits ahead/behind upstream".toList,
    "    %u  untracked files".toList,
    "    %m  unstaged change count".toList,
    "    %s  staged change count".toList,
    "    %d  inserted/deleted lines".toList,
    "    %t  stash present".toList,
    "    %%  literal %".toList]

def helpText : Text := helpLines.flatMap (· ++ ['\n'])

/-- What is said about arguments that cannot be understood. -/
def misuseText : Text := usageLine ++ ['\n']

end StatusPrompt.CommandLine
