import BucketStore.Proofs.Store.Lemmas.Actions
import BucketStore.Store.Listing

/-!
# Walks through a listing

A walk fetches page after page, each one from the cursor of the one before it, and stops at the
first page with which enough files are there or after which the service has no more. This is what a
full listing is compared with: `Store.pagesFrom` knows nothing of stopping, and `StopsAt` nothing of
fetching.
-/

namespace BucketStore

/-! ## What a session shows of a walk -/

/-- Whether the call asks for a page of a listing. -/
def Call.isListing : Call → Bool
  | .listObjects _ _ _ _ => true
  | _ => false

namespace Session

variable {σ : Type}

def listCalls (session : Session σ) : List Call :=
  session.calls.toList.filter Call.isListing

def warnings (session : Session σ) : List Log.Record :=
  session.records.toList.filter fun r => decide (r.level = .warning)

def logged (session : Session σ) (rs : List Log.Record) : Session σ :=
  { session with records := session.records ++ rs.toArray }

/-- The calls for pages and the warnings. -/
def watched (session : Session σ) : List Call × List Log.Record :=
  (session.listCalls, session.warnings)

end Session

/-! ## Pages and stops -/

namespace Store

variable {σ : Type}

/-- The request for the page at a cursor. -/
def requestAt (s : Store σ) (keyPrefix cursor : Value) : PageRequest :=
  { pageSize := .int s.config.listPageSize.val, keyPrefix, cursor }

/-- Fetches a number of pages, each one from the cursor of the one before it. -/
def pagesFrom (s : Store σ) (keyPrefix : Value) (option : GetOption) :
    Nat → Value → Action σ (List Page)
  | 0, _ => return []
  | n + 1, cursor => do
    let page ← s.listPaginated (some (s.requestAt keyPrefix cursor)) option
    let pages ← pagesFrom s keyPrefix option n page.cursor
    return page :: pages

end Store

def filesOf (pages : List Page) : List FileInfo :=
  pages.flatMap Page.files

/-- Whether a walk stops at the last of these pages, when it had kept some files before them: there
are enough, or the service says that there are no more, or not where they begin. -/
def StopsAt (most : Int) (kept : Nat) (pages : List Page) : Prop :=
  most ≤ (kept + (filesOf pages).length : Nat) ∨
    ∃ last, pages.getLast? = some last ∧ (last.isTruncated = false ∨ last.cursor.isTruthy = false)

/-- A walk from a cursor on, with some files kept already: the pages before its last step do not
stop it, and its last step either fails or stops it. -/
structure Store.Walk {σ : Type} (s : Store σ) (keyPrefix : Value) (option : GetOption)
    (cursor : Value) (kept : Nat) (session : Session σ) (before : List Page)
    (outcome : Result (List Page)) (later : Session σ) : Prop where
  goesOn : ∀ m, m ≤ before.length →
    (∃ between, (s.pagesFrom keyPrefix option m cursor).eval session =
      (.ok (before.take m), between)) ∧
    (0 < m → ¬ StopsAt s.config.listMaxObjects.val kept (before.take m))
  ends : (s.pagesFrom keyPrefix option (before.length + 1) cursor).eval session = (outcome, later)
  stops : ∀ pages, outcome = .ok pages → StopsAt s.config.listMaxObjects.val kept pages

/-- The calls for pages with these cursors. -/
def Store.pageCalls {σ : Type} (s : Store σ) (keyPrefix : Value) (cursors : List Value) :
    List Call :=
  cursors.map fun cursor =>
    .listObjects s.bucket keyPrefix cursor (.int s.config.listPageSize.val)

/-- The warning about a number of files, if as many as are wanted at most. -/
def Store.capWarnings {σ : Type} (s : Store σ) (keyPrefix : Value) (total : Nat) :
    List Log.Record :=
  if s.config.listMaxObjects.val ≤ total then
    [Log.record .warning Store.loggerName .listMaxObjectsReached
      [("total", .int total), ("prefix", keyPrefix)] none]
  else []

/-- The warnings at the end of a walk: none if it failed. -/
def Store.endWarnings {σ : Type} (s : Store σ) (keyPrefix : Value) (kept : Nat) :
    Result (List Page) → List Log.Record
  | .ok pages => s.capWarnings keyPrefix (kept + (filesOf pages).length)
  | .error _ => []

end BucketStore
