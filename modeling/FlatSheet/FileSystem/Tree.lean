import FlatSheet.FileSystem.Basic
import FlatSheet.FileSystem.Path

/-! # Directory trees

A tree holds directories and files under one directory, from which relative paths start. A path is
walked step by step: each step needs a directory to start from, two dots lead to the parent, and a
name has to be there. Nothing is known about the directories outside the tree, so every name in
them is missing.
-/

namespace FlatSheet

/-- The bytes of a file; a file of zeros is given by its size. -/
inductive Contents
  | bytes (data : ByteArray)
  | zeros (count : Nat)

namespace Contents

/-- The number of bytes. -/
def size : Contents → Nat
  | .bytes data => data.size
  | .zeros count => count

/-- The text that the bytes encode in UTF-8, if they do. -/
def text? : Contents → Option Text
  | .bytes data => (String.fromUTF8? data).map String.toList
  | .zeros count => some (List.replicate count '\x00')

end Contents

/-- What a path can lead to. -/
inductive Node
  | directory
  | file (contents : Contents)

/-- The nodes of a tree by their steps from its root; a later node replaces an earlier one. -/
structure Tree where
  nodes : List (List Text × Node)

/-- Where a walk stands: at a node of the tree or outside of it. -/
inductive Place
  | inside (steps : List Text)
  | outside

namespace Tree

/-- The tree of a directory without entries. -/
def empty : Tree := { nodes := [] }

/-- The longest name of a file in bytes. -/
def maxNameBytes : Nat := 255

/-- The longest path in bytes. -/
def maxPathBytes : Nat := 4095

/-- The size that is reported for a directory. -/
def directorySize : Nat := 4096

/-- The node at some steps from the root, which is a directory itself. -/
def node? (tree : Tree) : List Text → Option Node
  | [] => some .directory
  | steps => tree.nodes.lookup steps

/-- Puts a node at some steps from the root. -/
def add (tree : Tree) (steps : List Text) (node : Node) : Tree :=
  { nodes := (steps, node) :: tree.nodes }

/-- Adds the directories that lead to a path, where they are missing. -/
def addParents (tree : Tree) (steps : List Text) : Tree :=
  (List.range steps.length).foldl (fun tree count =>
    match tree.node? (steps.take count) with
    | some _ => tree
    | none => tree.add (steps.take count) .directory) tree

/-- Adds a node at a relative path together with the directories that lead to it. -/
def insert (tree : Tree) (path : Text) (node : Node) : Tree :=
  let steps := (Path.steps path).filter fun step => !Path.stays step
  (tree.addParents steps).add steps node

/-- The number of bytes of a text in UTF-8. -/
def byteCount (text : Text) : Nat := text.foldl (fun count char => count + char.utf8Size) 0

/-- One step of a walk. -/
def step (tree : Tree) (place : Place) (name : Text) : Except FileFault Place :=
  match place with
  | .outside =>
    if Path.stays name || name == ['.', '.'] then .ok .outside
    else if maxNameBytes < byteCount name then .error .nameTooLong
    else .error .notFound
  | .inside steps =>
    match tree.node? steps with
    | none => .error .notFound
    | some (.file _) => .error .notDirectory
    | some .directory =>
      if Path.stays name then .ok (.inside steps)
      else if name == ['.', '.'] then
        .ok (if steps.isEmpty then .outside else .inside steps.dropLast)
      else if maxNameBytes < byteCount name then .error .nameTooLong
      else
        match tree.node? (steps ++ [name]) with
        | some _ => .ok (.inside (steps ++ [name]))
        | none => .error .notFound

/-- The place that a path leads to. -/
def walk (tree : Tree) (path : Text) : Except FileFault Place :=
  if path.isEmpty then .error .notFound
  else if maxPathBytes < byteCount path then .error .nameTooLong
  else
    let start : Place := if path.head? = some '/' then .outside else .inside []
    (Path.steps path).foldlM tree.step start

/-- The node that a path leads to; outside the tree there are only directories. -/
def find (tree : Tree) (path : Text) : Except FileFault Node := do
  match ← tree.walk path with
  | .outside => return .directory
  | .inside steps =>
    match tree.node? steps with
    | some node => return node
    | none => throw .notFound

/-- The tree as a file system. -/
def files (tree : Tree) : FileSystem where
  size path := do
    match ← tree.find path with
    | .directory => return directorySize
    | .file contents => return contents.size
  read path := do
    match ← tree.find path with
    | .directory => throw .isDirectory
    | .file contents =>
      match contents.text? with
      | some text => return text
      | none => throw .notText

end Tree

end FlatSheet
