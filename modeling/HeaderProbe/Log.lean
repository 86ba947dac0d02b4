import HeaderProbe.Text.Blank

namespace HeaderProbe

inductive Level where
  | debug
  | info
  | error
  deriving DecidableEq, Repr

def Level.name : Level → Text
  | debug => "DEBUG".toList
  | info => "INFO".toList
  | error => "ERROR".toList

structure LogRecord where
  level : Level
  message : Text
  deriving DecidableEq, Repr

def LogRecord.print (r : LogRecord) : Text :=
  r.level.name ++ ": ".toList ++ r.message

end HeaderProbe
