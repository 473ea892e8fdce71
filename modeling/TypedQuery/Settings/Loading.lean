import TypedQuery.Settings.Basic
import TypedQuery.Document.Content
import TypedQuery.Logging.Registry
import TypedQuery.Storage.Directory

/-!
Loading settings from a document in the working directory. The path may be given; otherwise a
local document comes first, then the one that the surroundings name, then the one that belongs to
the library. Settings that cannot be found are the default ones.
-/
set_option autoImplicit false

namespace TypedQuery

structure Surroundings where
  directory : Directory
  /-- The path that is named outside the directory; empty if there is none. -/
  named : String
  /-- The path of the document that belongs to the library, which nobody wrote. -/
  builtIn : String

namespace Surroundings

def localPath : Path := ⟨"", ["config", "omsearch.yaml"]⟩

def defaultPath (w : Surroundings) : Path :=
  if w.directory.has localPath then localPath
  else Path.ofText (if w.named = "" then w.builtIn else w.named)

/-- The path that a value gives, nothing standing for the default one. -/
def pathOf (w : Surroundings) : Value → Result Path
  | .null => .ok w.defaultPath
  | .text path => .ok (Path.ofText path)
  | _ => .error (.misuse .wrongType)

/-- The settings in a document, and whether they have no end; an empty document gives the default
settings. -/
def read (w : Surroundings) (path : Path) : Result (Settings × Bool) := do
  match ← w.directory.read? path with
  | none => return ({}, false)
  | some text =>
    let found ← Document.read text
    if found.value.truthy then return (← Settings.ofTable found.value, found.isEndless)
    return ({}, false)

/-- Loads settings, and gives the logger of the library their level. Settings without an end
cannot be handed out. -/
def load (w : Surroundings) (path : Value) : Result (Settings × Registry) := do
  let (settings, isEndless) ← w.read (← w.pathOf path)
  match Registry.initial.setUp (.text packageLogger) settings.logLevel .null .null with
  | (registry, .ok _) =>
    if isEndless then throw (.misuse .endless)
    return (settings, registry)
  | (_, .error e) => throw e

end Surroundings

end TypedQuery
