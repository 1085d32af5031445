/-!
# Paths below the home directory

`abbreviate` writes a path below the home directory with a tilde for it.
-/

namespace TaskConsole.Text

/-- The characters of a directory, or of an address, without the slashes at its end. -/
def withoutSlashes (directory : List Char) : List Char :=
  (directory.reverse.dropWhile fun c => c = '/').reverse

/-- The path with a tilde in place of the home directory, if the path is that
directory or lies below it. -/
def abbreviateChars (home path : List Char) : List Char :=
  let home := withoutSlashes home
  if home.isEmpty || !home.isPrefixOf path then path
  else match path.drop home.length with
    | [] => ['~']
    | '/' :: rest => '~' :: '/' :: rest
    | _ => path

/-- A path as it is shown to a user with a home directory, if there is one. -/
def abbreviate (home : Option String) (path : String) : String :=
  match home with
  | none => path
  | some home => String.ofList (abbreviateChars home.toList path.toList)

end TaskConsole.Text
