/-
  Sift.Subject.Workspace
  ──────────────────────
  **Named handles on catalogs.**

  Several handles may stand for one catalog; a change through one of them is seen through all
  of them.  A handle that was never made stands for no catalog, and changing through it makes
  it a handle on a catalog of its own.
-/
import Sift.Subject.Catalog

namespace Sift

/-- Catalogs and the handles on them: each handle has the number of its catalog. -/
structure Workspace where
  catalogs : List Catalog
  handles : List (String × Nat)

namespace Workspace

/-- No catalogs and no handles. -/
def empty : Workspace := ⟨[], []⟩

/-- The number of the catalog that a handle stands for. -/
def number? (w : Workspace) (handle : String) : Option Nat :=
  (w.handles.find? (·.1 == handle)).map (·.2)

def get? (w : Workspace) (handle : String) : Option Catalog :=
  (w.number? handle).bind (w.catalogs[·]?)

/-- Makes a handle on a catalog of its own. -/
def create (w : Workspace) (handle : String) (catalog : Catalog) : Workspace where
  catalogs := w.catalogs ++ [catalog]
  handles := (handle, w.catalogs.length) :: w.handles

/-- Makes a second handle on the catalog of the first, where there is one. -/
def share? (w : Workspace) (handle second : String) : Option Workspace :=
  (w.number? handle).map fun n => { w with handles := (second, n) :: w.handles }

/-- **Changes the catalog of a handle**, and keeps it where the change is refused. -/
def update (w : Workspace) (handle : String) (change : Catalog → Logged Catalog) :
    Workspace × Logged Unit :=
  match w.number? handle, w.get? handle with
  | some n, some catalog =>
    let result := change catalog
    match result.outcome with
    | .ok changed => ({ w with catalogs := w.catalogs.set n changed }, ⟨.ok (), result.events⟩)
    | .error error => (w, ⟨.error error, result.events⟩)
  -- A handle that is not there stands for a new registry, changed or not.
  | _, _ =>
    let result := change .empty
    match result.outcome with
    | .ok changed => (w.create handle changed, ⟨.ok (), result.events⟩)
    | .error error => (w.create handle .empty, ⟨.error error, result.events⟩)

end Workspace

end Sift
