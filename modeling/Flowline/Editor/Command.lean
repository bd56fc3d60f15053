import Flowline.Editor.Json
import Flowline.Editor.Navigation
import Flowline.Text.Path

/-!
# Commands of the editor

Running a document opens a terminal with the command line of the compiler; showing its tree opens a
new document. A command is described by the calls it makes to the editor, in order.
-/

namespace Flowline.Editor

inductive Call
  | info (text : String)
  | warning (text : String)
  | error (text : String)
  | save
  | createTerminal (name directory : String)
  | showTerminal
  | sendText (text : String)
  | openDocument (content language : String)
deriving DecidableEq, Repr

inductive Command
  | run
  | runPath
  | transpile
  | showTree
deriving DecidableEq, Repr

structure Workspace where
  /-- The document of the active editor. -/
  active : Option Document := none
  folders : List String := []
  /-- The configured directory of the compiler, empty if there is none. -/
  projectRoot : String := ""
  interpreter : String := "python"

/-- The document of the active editor, if it is one of the language. -/
def Workspace.source? (w : Workspace) : Option Document :=
  w.active.filter fun d => d.language == languageId

/-- The directory of the compiler: the configured one, or the first folder. -/
def Workspace.root? (w : Workspace) : Option String :=
  if !w.projectRoot.isEmpty then some w.projectRoot
  else w.folders.head?.filter fun f => !f.isEmpty

def toolPath (root : String) : String :=
  String.ofList (Text.joinPaths [root.toList, "tools".toList, "catapillar.py".toList])

def noRoot : String :=
  "Cannot determine Catapillar runtime. Open a folder or set catapillar.projectRoot. " ++
    "The extension ships a bundled runtime when installed from VSIX."

def noSource : String := "No active Catapillar file."

def quotePath (path : String) : String :=
  if path.toList.contains ' ' then "\"" ++ path ++ "\"" else path

/-- Runs the file at a path in a terminal. Without a path there is nothing to run. -/
def Workspace.runFile (w : Workspace) (path : Option String) : Except EditorFault (List Call) :=
  match w.root?, path with
  | none, _ => .ok [.error noRoot]
  | some _, none => .error (.missing "includes")
  | some root, some path =>
    .ok [.createTerminal "Catapillar" root, .showTerminal,
      .sendText (w.interpreter ++ " " ++ quotePath (toolPath root) ++ " " ++ quotePath path ++
        " --exec")]

def Document.treeText (d : Document) : String :=
  jsonText (d.analysis.program.toDatum Placed.toDatum)

/-- The calls that a command makes; some commands are given the path of a file. -/
def Workspace.perform (w : Workspace) (c : Command) (path : Option String) :
    Except EditorFault (List Call) :=
  match c, w.source? with
  | .runPath, _ => w.runFile path
  | _, none => .ok [.warning noSource]
  | .run, some d => (w.runFile (some d.path)).map (.save :: ·)
  | .showTree, some d => .ok [.openDocument d.treeText "json"]
  | .transpile, some _ => .ok [.save]

end Flowline.Editor
