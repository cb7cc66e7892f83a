/-
  Sift.Settings.Source
  ────────────────────
  **Settings from texts, files and the environment.**

  A file's format is told by the extension of its name.  What the environment gives is set
  after what the file gives and so replaces it.

  The keys of one source are not set in the order of the text: they are collected in a table
  without an order first, and it is open in which one they come out of it, each time anew.  Every
  reading therefore takes an order of the keys of each of its sources.
-/
import Sift.Settings.Declaration
import Sift.Settings.Environment
import Sift.Settings.Toml.Parser
import Sift.Json.Parser
import Sift.Event

namespace Sift.Settings

/-- A format of settings. -/
inductive Format where
  | json
  | toml
deriving DecidableEq

namespace Format

/-- The format of files of that extension. -/
def ofExtension? (extension : String) : Option Format :=
  if extension = "json" then some json
  else if extension = "toml" then some toml
  else none

/-- The top-level members of a text. -/
def members? (format : Format) (text : String) : Option (List (String × Tree)) :=
  match format with
  | json => (Json.parse? text).bind fun j => (Tree.ofJson j).members?
  | toml => Toml.parse? text

end Format

/-! ## Orders of keys -/

/-- **An order in which the keys of a source are set.** -/
structure KeyOrder where
  arrange : List (String × Tree) → List (String × Tree)
  /-- No key is lost, and none is set twice. -/
  perm (source : List (String × Tree)) : (arrange source).Perm source

/-- The order in which the keys are given. -/
def KeyOrder.asGiven : KeyOrder where
  arrange := id
  perm := .refl

/-! ## Sources -/

/-- The settings that several sources give, one after the other. -/
def ofSources (sources : List (List (String × Tree))) : Except Error Settings :=
  match ofMembers? (sources.foldl KeyPath.setAll []) with
  | some settings => .ok settings
  | none => .error (.unreadableSettings "")

/-- **Settings from a text**, its keys set in that order. -/
def ofTextBy (order : KeyOrder) (format : Format) (text : String) : Except Error Settings :=
  match format.members? text with
  | some members => ofSources [order.arrange members]
  | none => .error (.unreadableSettings "")

/-- Settings from a text, the keys in the order in which its format gives them. -/
def ofText : Format → String → Except Error Settings := ofTextBy .asGiven

/-- The text of a file without a byte-order mark at its start. -/
def fileText (text : String) : String := String.ofList (Toml.withoutMark text.toList)

/-- The top-level members of a file, missing where `text` is. -/
def fileMembers? (extension : String) (text : Option String) : Option (List (String × Tree)) :=
  (Format.ofExtension? extension).bind fun format =>
    text.bind fun text => format.members? (fileText text)

/-- Settings from a file and from the environment, the keys of each in an order of its own. -/
def ofFileBy (order envOrder : KeyOrder) (extension : String) (text : Option String)
    (env : List (String × String)) : Except Error Settings :=
  match fileMembers? extension text with
  | some members => ofSources [order.arrange members, envOrder.arrange (Environment.settings env)]
  | none => .error (.unreadableSettings "")

/-- **Loads settings** from a file and the environment; success is one event. -/
def loadBy (order envOrder : KeyOrder) (path : Option String) (extension : String)
    (text : Option String) (env : List (String × String)) : Logged Settings :=
  (Logged.quietly (ofFileBy order envOrder extension text env)).bind fun settings =>
  (Logged.note (.settingsLoaded path settings.root settings.subjects.length)).bind fun _ =>
  .pure settings

/-- Loads settings, the keys in the order in which the file and the environment give them, and tells
no path. -/
def load : String → Option String → List (String × String) → Logged Settings :=
  loadBy .asGiven .asGiven none

end Sift.Settings
