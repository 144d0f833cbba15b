import GemSurvey.Path
import GemSurvey.Text.Basic

/-! What can go wrong between the program and the system, and why a run fails. Each fault has a message,
at times advice, and an exit code that tells a wrong setting from bad data, a missing service, a broken
invariant and a failed write. Context is kept by faults of the system and by plain ones, the outermost
first. -/
namespace GemSurvey

inductive IoFault where
  | notFound | denied | exists | notDirectory | isDirectory | noSpace | nameTooLong
  | zeroInName | zeroInArgument
  | notText
  | other (message : Text)
  deriving DecidableEq, Repr

def IoFault.message : IoFault → Text
  | notFound => "No such file or directory (os error 2)"
  | denied => "Permission denied (os error 13)"
  | .exists => "File exists (os error 17)"
  | notDirectory => "Not a directory (os error 20)"
  | isDirectory => "Is a directory (os error 21)"
  | noSpace => "No space left on device (os error 28)"
  | nameTooLong => "File name too long (os error 36)"
  | zeroInName => "file name contained an unexpected NUL byte"
  | zeroInArgument => "nul byte found in provided data"
  | notText => "stream did not contain valid UTF-8"
  | other message => message

inductive SettingsFault where
  | parse (path : Path) (reason : Text)
  | invalidValue (field reason : Text)
  | ignorePattern (path : Path) (reason : Text)
  deriving DecidableEq, Repr

inductive GitFault where
  | commandFailed (command stderr : Text)
  | notRepository (path : Path)
  deriving DecidableEq, Repr

inductive Fault where
  | settings (cause : SettingsFault)
  | git (cause : GitFault)
  | invariant (message : Text)
  | io (cause : IoFault) (context : Option Text)
  | plain (message : Text) (context help : Option Text)
  deriving DecidableEq, Repr

inductive Format where
  | pattern | glob | toml | json
  deriving DecidableEq, Repr

namespace SettingsFault

def message : SettingsFault → Text
  | parse path reason => "Failed to parse config from " ++ path.text ++ ": " ++ reason
  | invalidValue field reason => "Invalid value for `" ++ field ++ "`: " ++ reason
  | ignorePattern path reason => "Invalid ignore pattern in " ++ path.text ++ ": " ++ reason

def help : SettingsFault → Text
  | parse _ _ =>
      "Check gemsmith.toml against the documented [package], [scan] and [tools] tables."
  | invalidValue field _ => "Fix or remove `" ++ field ++ "` in gemsmith.toml to use the default."
  | ignorePattern path _ => path.text ++
      " must hold a single regular expression (whitespace is removed before compiling)."

end SettingsFault

namespace GitFault

def message : GitFault → Text
  | commandFailed command stderr => "Git command failed: " ++ command ++ "\n" ++ stderr
  | notRepository path => "Git repository not found at: " ++ path.text

def help? : GitFault → Option Text
  | commandFailed _ _ => none
  | notRepository path => some ("gemsmith only scans tracked files. Run `git init` and commit your " ++
      "sources first: " ++ path.text)

end GitFault

namespace Fault

def message : Fault → Text
  | settings cause => cause.message
  | git cause => cause.message
  | invariant text => "Internal invariant violated: " ++ text
  | io cause none => "I/O error: " ++ cause.message
  | io cause (some context) => context ++ "\nI/O error: " ++ cause.message
  | plain text none _ => text
  | plain text (some context) _ => text ++ "\n" ++ context

def help? : Fault → Option Text
  | settings cause => some cause.help
  | git cause => cause.help?
  | invariant _ => some ("Two lookups disagreed on a version. Check for duplicate installed gems, " ++
      "then rerun with `gemsmith -vv dependencies`.")
  | io _ _ => none
  | plain _ _ help => help

def exitCode : Fault → Nat
  | settings (.invalidValue _ _) => 64
  | settings _ => 65
  | git _ => 69
  | invariant _ => 70
  | io _ _ => 73
  | plain _ _ _ => 65

def source? : Fault → Option IoFault
  | io cause _ => some cause
  | _ => none

def outer (context : Text) : Option Text → Text
  | none => context
  | some inner => context ++ "\n" ++ inner

def withContext (context : Text) : Fault → Fault
  | io cause inner => io cause (some (outer context inner))
  | plain text inner help => plain text (some (outer context inner)) help
  | fault => fault

def ofText (message : Text) : Fault := plain message none none

def withHelp (message help : Text) : Fault := plain message none (some help)

def ofIo (context : Text) (cause : IoFault) : Fault := io cause (some context)

def rejected (format : Format) (reason : Text) : Fault :=
  ofText <| match format with
    | .pattern => "Invalid pattern: " ++ reason
    | .glob => "Invalid glob pattern: " ++ reason
    | .toml => "TOML deserialization error: " ++ reason
    | .json => "JSON error: " ++ reason

end Fault
end GemSurvey
