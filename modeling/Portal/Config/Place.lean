import Portal.Config.Load
import Portal.Text.Basic

/-!
# Where configuration files are

A place to run in: the current directory, the home directory, and the files there are. Relative
paths start in the current directory.
-/

namespace Portal

/-- Files and directories by the names that lead to them from the root. -/
structure FileTree where
  entries : List (List String × Entry)

namespace FileTree

/-- A directory exists if it is listed or if something is in it. -/
def at? (tree : FileTree) (names : List String) : Option Entry :=
  match tree.entries.find? fun e => e.1 = names with
  | some e => some e.2
  | none =>
    if tree.entries.any fun e => names.isPrefixOf e.1 then some .directory else none

/-- One name more on the way. `..` leads back. Nothing is found below a file. -/
def enter (tree : FileTree) (here : List String) (name : String) : Option (List String) :=
  match tree.at? here with
  | some .directory =>
    if name = "" ∨ name = "." then some here
    else if name = ".." then some here.dropLast
    else some (here ++ [name])
  | _ => none

/-- What is found under a path. An empty path leads nowhere. -/
def find? (tree : FileTree) (cwd path : String) : Option Entry := do
  let names (s : String) : List String := (Text.pieces '/' s.toList).map String.ofList
  if path.isEmpty then none
  let all := if path.toList.head? = some '/' then names path else names cwd ++ names path
  let found ← all.foldlM (tree.enter) []
  tree.at? found

end FileTree

structure Place where
  cwd : String
  home : String
  tree : FileTree

namespace Place

def rcFileName : String := ".blacklakerc"

/-- The file that the environment names, and no other then. Otherwise the one in the current
directory or the one at home. -/
def candidates (p : Place) (env : Environment) : List String :=
  match env "BLACKLAKE_RC" with
  | some path => [path]
  | none => [p.cwd, p.home].map fun dir => s!"{dir}/{rcFileName}"

end Place

/-- The configuration of a client that runs in a place. -/
def ClientConfig.load (url apiKey : Option String) (verify : Option Bool) (env : Environment)
    (place : Place) : Except ConfigError ClientConfig :=
  resolve ⟨url, apiKey, verify, none⟩ env (place.tree.find? place.cwd) (place.candidates env)

end Portal
