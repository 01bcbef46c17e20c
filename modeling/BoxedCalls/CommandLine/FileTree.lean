import BoxedCalls.Report.UnitReport

namespace BoxedCalls

inductive FileNode where
  | file (bytes : ByteArray)
  | directory

structure FileTree where
  entries : List (List String × FileNode) := []

namespace FileTree

def segments (path : String) : List String :=
  path.splitOn "/"

def layOut (node : FileNode) (tree : FileTree) (names : List String) : List String → FileTree
  | [] => ⟨(names.reverse, node) :: tree.entries⟩
  | segment :: rest =>
      if segment ∈ ["", "."] then layOut node tree names rest
      else if segment = ".." then
        match names with
        | [] => tree
        | _ :: above => layOut node ⟨(names.reverse, .directory) :: tree.entries⟩ above rest
      else layOut node tree (segment :: names) rest

def insert (tree : FileTree) (path : String) (node : FileNode) : FileTree :=
  match segments path with
  | "" :: _ :: _ => tree
  | names => layOut node tree [] names

def find? (tree : FileTree) (place : List String) : Option FileNode :=
  match tree.entries.lookup place with
  | some node => some node
  | none =>
      if place.isEmpty || tree.entries.any (place.isPrefixOf ·.1) then some .directory else none

inductive Place where
  | inside (names : List String)
  | outside

def nameLimit : Nat := 255

def pathLimit : Nat := 4095

def absence (name : String) : ReadError :=
  if nameLimit < name.utf8ByteSize then .nameTooLong else .noSuchFile

def step (tree : FileTree) (place : Place) (segment : String) : Except ReadError Place :=
  match place with
  | .outside =>
      if segment ∈ ["", ".", ".."] then .ok .outside else .error (absence segment)
  | .inside names =>
      match tree.find? names.reverse with
      | none => .error .noSuchFile
      | some (.file _) => .error .notDirectory
      | some .directory =>
          if segment ∈ ["", "."] then .ok place
          else if segment = ".." then
            match names with
            | [] => .ok .outside
            | _ :: names => .ok (.inside names)
          else if (tree.find? (segment :: names).reverse).isSome then
            .ok (.inside (segment :: names))
          else .error (absence segment)

def walk (tree : FileTree) : Place → List String → Except ReadError Place
  | place, [] => .ok place
  | place, segment :: rest => (tree.step place segment).bind (tree.walk · rest)

def contents (tree : FileTree) : Place → Except ReadError String
  | .outside => .error .isDirectory
  | .inside names =>
      match tree.find? names.reverse with
      | none => .error .noSuchFile
      | some .directory => .error .isDirectory
      | some (.file bytes) =>
          match String.fromUTF8? bytes with
          | some text => .ok text
          | none => .error .invalidText

def read (tree : FileTree) (path : String) : Except ReadError String :=
  if '\x00' ∈ path.toList then .error .nulInPath
  else if pathLimit < path.utf8ByteSize then .error .nameTooLong
  else
    match segments path with
    | [""] => .error .noSuchFile
    | "" :: rest => (tree.walk .outside rest).bind tree.contents
    | names => (tree.walk (.inside []) names).bind tree.contents

end FileTree

end BoxedCalls
