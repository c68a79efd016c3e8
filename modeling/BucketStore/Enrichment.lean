import BucketStore.Models
import BucketStore.TaskGroup.Basic

/-!
# Enriching a listing

Tags and URLs are added to listed objects, all or nothing: first all tags are fetched, then all URLs
are signed, and a failure leaves no result. What fetches for a list of keys is a parameter of
`enrich`; `enrichByTasks` fetches by bounded groups of tasks, the one for the URLs after the one for
the tags, on one clock.
-/

namespace BucketStore

/-- How many tasks fetch at a time unless something else is configured. -/
def defaultConcurrency : Nat := 5

/-- Whether the option asks for anything besides the objects themselves. -/
def GetOption.asksMore (option : GetOption) : Bool :=
  option.withTagging || option.withUrl

/-- The files with the tags and URLs at their positions. -/
def FileInfo.assemble : List FileInfo → List (Option TagMap) → List Value → List FileInfo
  | f :: fs, tags :: taggings, url :: urls =>
    { f with tagging := tags, url := url } :: assemble fs taggings urls
  | _, _, _ => []

/-- The files with what the option asks for, fetched for all their keys at once. -/
def enrich {m : Type → Type} [Monad m] (tagAll : List Value → m (List (Option TagMap)))
    (signAll : List Value → m (List Value)) (files : List FileInfo) (option : GetOption) :
    m (List FileInfo) := do
  if files.isEmpty || !option.asksMore then return files
  let keys := files.map fun f => f.key
  let taggings ←
    if option.withTagging then tagAll keys else pure (files.map fun f => f.tagging)
  let urls ← if option.withUrl then signAll keys else pure (files.map fun f => f.url)
  return FileInfo.assemble files taggings urls

/-! ## Fetching by tasks -/

/-- When a worker ran: for which key, from which time on, and until it ended or was cancelled. -/
structure Span where
  key : Value
  start : Nat
  stop : Nat
deriving Inhabited

/-- What the workers of one kind did: when those that started ran, in the order of submission, and
the most of them at once. -/
structure WorkReport where
  spans : List Span := []
  peak : Nat := 0
deriving Inhabited

/-- What an enrichment did, for the tags and for the URLs, and the time on its clock. -/
structure FetchReport where
  clock : Nat := 0
  tagging : WorkReport := {}
  signing : WorkReport := {}
deriving Inhabited

namespace FetchReport

/-- The keys for which tags were asked, in order. -/
def taggingKeys (r : FetchReport) : List Value :=
  r.tagging.spans.map Span.key

/-- The most requests for tags at once. -/
def taggingPeak (r : FetchReport) : Nat :=
  r.tagging.peak

/-- The keys for which URLs were signed, in order. -/
def signingKeys (r : FetchReport) : List Value :=
  r.signing.spans.map Span.key

/-- The most requests for URLs at once. -/
def signingPeak (r : FetchReport) : Nat :=
  r.signing.peak

def noteTagging (work : WorkReport) (r : FetchReport) : FetchReport :=
  { r with tagging := work }

def noteSigning (work : WorkReport) (r : FetchReport) : FetchReport :=
  { r with signing := work }

end FetchReport

/-- Fetching keeps a report, also of what failed. -/
abbrev Fetch := ExceptT Failure (StateM FetchReport)

/-- When the task of a key ran, if it started; a cancelled one ran until now. -/
def Span.ofTask? {α : Type} (now : Nat) (key : Value) (t : Task α) : Option Span :=
  match t.phase with
  | .cancelled start? => start?.map fun start => ⟨key, start, now⟩
  | phase => phase.start?.map fun start => ⟨key, start, start + t.job.delay⟩

/-- What the tasks of a group did for their keys. -/
def WorkReport.ofGroup {α : Type} (keys : List Value) (g : TaskGroup α) : WorkReport where
  spans := (keys.zip g.tasks).filterMap fun (key, t) => Span.ofTask? g.clock key t
  peak := g.peak

/-- Runs one job for each key in a group, from the time of the report on, and reports on it. -/
def fetchAll {α : Type} (limit : Value) (job : Nat → Value → Job α)
    (note : WorkReport → FetchReport → FetchReport) (keys : List Value) : Fetch (List α) :=
  match TaskGroup.ofValue limit with
  | .error e => throw e
  | .ok g => ExceptT.mk fun report =>
    let (r, g) := { g with clock := report.clock }.runAll (keys.mapIdx job)
    (r, note (.ofGroup keys g) { report with clock := g.clock })

/-- The files with what the option asks for, fetched by at most `limit` tasks at a time. What a task
takes and what comes of it may depend on the position of its file, not on the key alone. -/
def enrichByTasks (limit : Value) (tag : Nat → Value → Job (Option TagMap))
    (sign : Nat → Value → Value → Job Value) (files : List FileInfo) (option : GetOption) :
    Fetch (List FileInfo) :=
  enrich
    (fetchAll limit tag .noteTagging)
    (fetchAll limit (fun i key => sign i key option.expire) .noteSigning)
    files option

/-- The files with what the option asks for, where all tasks of a key are alike. -/
def enrichScheduled (limit : Value) (tag : Value → Job (Option TagMap))
    (sign : Value → Value → Job Value) (files : List FileInfo) (option : GetOption) :
    Fetch (List FileInfo) :=
  enrichByTasks limit (fun _ => tag) (fun _ => sign) files option

end BucketStore
