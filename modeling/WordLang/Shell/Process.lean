namespace WordLang

structure ProcessResult where
  status : Nat
  stdout : String
  stderr : String
deriving Repr, Inhabited

structure OsError where
  code : Nat
  kind : String
  message : String
deriving DecidableEq, Repr, Inhabited

def joinLines (ls : List String) : String := String.join (ls.map (· ++ "\n"))

namespace OsError

def notFound : OsError := ⟨2, "NotFound", "No such file or directory"⟩

def isDirectory : OsError := ⟨21, "IsADirectory", "Is a directory"⟩

def describe (e : OsError) : String := e.message ++ " (os error " ++ toString e.code ++ ")"

def structView (e : OsError) : String :=
  "Io(Os \x7b code: " ++ toString e.code ++ ", kind: " ++ e.kind ++ ", message: \"" ++
    e.message ++ "\" \x7d)"

end OsError

end WordLang
