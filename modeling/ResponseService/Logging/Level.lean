import ResponseService.Fault.Condition
import ResponseService.Text.Case

/-!
# Log levels

A level is a number; some numbers have names, and some have two.  A name is
looked up in capitals.  A name that stands for nothing means the level of
ordinary information.  Two names stand for texts about log lines; neither of
them can be used as a level.
-/

namespace ResponseService.Logging

namespace Level

/-- The level of messages for those who look for an error. -/
def debug : Int := 10

/-- The level of ordinary information. -/
def info : Int := 20

/-- The level of what may lead to an error. -/
def warning : Int := 30

/-- The level of errors. -/
def error : Int := 40

/-- The level of errors that end the service. -/
def critical : Int := 50

/-- The levels that have a name, with their first ones. -/
def named : List (Int × Text) :=
  [(critical, "CRITICAL"), (error, "ERROR"), (warning, "WARNING"),
    (info, "INFO"), (debug, "DEBUG"), (0, "NOTSET")]

/-- Second names of levels. -/
def aliases : List (Int × Text) := [(critical, "FATAL"), (warning, "WARN")]

/-- The name of a level. -/
def name (level : Int) : Text :=
  match named.find? (·.1 = level) with
  | some (_, name) => name
  | none => "Level " ++ Decimal.ofInt level

/-- The level that a name in capitals stands for. -/
def ofCapitals? (capitals : Text) : Option Int :=
  ((named ++ aliases).find? (·.2 = capitals)).map Prod.fst

/-- The names that stand for texts about log lines, in capitals. -/
def reserved : List (Text × LevelProblem) :=
  [("BASIC_FORMAT", .unknown "%(levelname)s:%(name)s:%(message)s"),
    ("_STYLES", .unsuitable
      ("\x7b'%': (<class 'logging.PercentStyle'>, " ++
        "'%(levelname)s:%(name)s:%(message)s'), " ++
        "'\x7b': (<class 'logging.StrFormatStyle'>, " ++
        "'\x7blevelname\x7d:\x7bname\x7d:\x7bmessage\x7d'), " ++
        "'$': (<class 'logging.StringTemplateStyle'>, " ++
        "'$\x7blevelname\x7d:$\x7bname\x7d:$\x7bmessage\x7d')\x7d"))]

/-- The level that a configured name stands for. -/
def ofName (name : Text) : Except LevelProblem Int :=
  let capitals := name.upper
  match ofCapitals? capitals with
  | some level => .ok level
  | none =>
      match reserved.find? (·.1 = capitals) with
      | some (_, problem) => .error problem
      | none => .ok info

end Level

end ResponseService.Logging
