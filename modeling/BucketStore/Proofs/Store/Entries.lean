import BucketStore.Proofs.Enrichment.Lemmas.Files
import BucketStore.Proofs.Store.Agreement
import BucketStore.Proofs.Store.Lemmas.Runs

/-!
# Entries of a page

What the objects of a page read as, told without the readers: their times, tags and the flag of the
page by the shapes of the values. And which tags and URLs the service has for the keys of a page.
-/

namespace BucketStore

/-! ## Readings of values -/

namespace Payload

/-- The zero time for what counts as absent, and else the time of a text. -/
inductive TimeIs : Value → Time.DateTime → Prop
  | absent {v : Value} : v.isTruthy = false → TimeIs v .zero
  | text {s : String} {t : Time.DateTime} : s ≠ "" → Time.Timestamp.parse s = .ok t →
      TimeIs (.text s) t

/-- Nothing for what counts as absent, and else a text without the quotes at its ends. -/
inductive TagIs : Value → String → Prop
  | absent {v : Value} : v.isTruthy = false → TagIs v ""
  | text {s tag : String} {before after : Nat} :
      s.toList = List.replicate before '"' ++ tag.toList ++ List.replicate after '"' →
      tag.toList.head? ≠ some '"' → tag.toList.getLast? ≠ some '"' → TagIs (.text s) tag

/-- The truth value itself, or a text that is the word true in any case, with white space around. -/
inductive SaysTrue : Value → Prop
  | bool : SaysTrue (.bool true)
  | text {s : String} {before word after : List Char} : s.toList = before ++ word ++ after →
      (∀ c ∈ before, Text.isBlank c = true) → word.map Char.toLower = ['t', 'r', 'u', 'e'] →
      (∀ c ∈ after, Text.isBlank c = true) → SaysTrue (.text s)

end Payload

/-! ## Entries -/

/-- What an object of a page reads as. -/
structure PageEntry where
  key : String
  size : Int
  time : Time.DateTime
  tag : String

namespace PageEntry

/-- The fields of an object read as the entry. -/
structure IsRead (e : PageEntry) (fields : Fields) : Prop where
  key : (Fields.get? fields "Key").getD (.text "") = .text e.key
  size : Payload.size (Fields.get fields "Size") = .ok e.size
  time : Payload.TimeIs (Fields.get fields "LastModified") e.time
  tag : Payload.TagIs (Fields.get fields "ETag") e.tag

/-- Whether the entry stands for a directory: it is empty, and its key ends in a slash. -/
def isMarker (e : PageEntry) : Bool :=
  e.size == 0 && e.key.toList.getLast? == some '/'

/-- The entry as a file, without tags and a URL. -/
def file (e : PageEntry) : FileInfo where
  key := .text e.key
  size := .int e.size
  lastModified := e.time
  etag := .text e.tag

/-- What is logged of an entry that is left out. -/
def skipRecord (e : PageEntry) : Log.Record :=
  Log.record .debug Store.loggerName .listSkipDir [("key", .text e.key)] none

/-- The entries that are listed. -/
def kept (entries : List PageEntry) : List PageEntry :=
  entries.filter fun e => !e.isMarker

def skipped (entries : List PageEntry) : List PageEntry :=
  entries.filter isMarker

def keptKeys (entries : List PageEntry) : List Value :=
  (kept entries).map fun e => .text e.key

end PageEntry

/-- The contents of a page hold objects that read as these entries, in their order. -/
def Store.PageShows (contents : Value) (entries : List PageEntry) : Prop :=
  ∃ objects, Store.Holds contents objects ∧
    List.Forall₂ (fun object e => ∃ fields, object = .object fields ∧ PageEntry.IsRead e fields)
      objects entries

/-! ## Tags and URLs -/

namespace Exchange

/-- The call was answered with these tags. -/
def GivesTags (x : Exchange) (tags : Option TagMap) : Prop :=
  ∃ answer fields, x.answer = .ok answer ∧ Payload.HasFields answer.toValue fields ∧
    TagMap.ofAnswer (Fields.get fields "TagSet") = .ok tags

/-- The call was answered with this URL. -/
def GivesUrl (x : Exchange) (url : Value) : Prop :=
  ∃ answer, x.answer = .ok answer ∧ answer.toValue = url

end Exchange

namespace Store

variable {σ : Type}

def tagCalls (s : Store σ) (option : GetOption) (keys : List Value) : List Call :=
  if option.withTagging then keys.map fun key => .getObjectTagging s.bucket key else []

def urlCalls (s : Store σ) (option : GetOption) (keys : List Value) : List Call :=
  if option.withUrl then keys.map fun key => .signUrl s.bucket key "GET" (s.lifetime option)
  else []

/-- Asked from this state on for what the option wants, first for all tags and then for all URLs, the
service has these for the keys, one by one; and the time for which URLs are to be good is known. -/
structure Gives (s : Store σ) (option : GetOption) (keys : List Value) (state : σ)
    (tags : List (Option TagMap)) (urls : List Value) : Prop where
  tagging : List.Forall₂ Exchange.GivesTags
    (s.service.exchanges (s.tagCalls option keys) state).1 tags
  signing : List.Forall₂ Exchange.GivesUrl
    (s.service.exchanges (s.urlCalls option keys)
      (s.service.exchanges (s.tagCalls option keys) state).2).1 urls
  lifetime : keys ≠ [] → option.HasLifetime

/-- Two stores of one configuration whose services answer alike, save for pages. -/
structure Alike (s t : Store σ) : Prop where
  config : t.config = s.config
  answer : ∀ c, c.isListing = false → t.service.answer c = s.service.answer c

/-- One record for each entry that is left out, if records for debugging are logged. -/
def skipRecords (s : Store σ) (entries : List PageEntry) : List Log.Record :=
  if s.debug then (PageEntry.skipped entries).map PageEntry.skipRecord else []

/-- How a page of these entries is listed, with the state in which the service is after the call for
the page. Every store like this one, whatever its service answers as the page, runs alike as long as
that shows the entries: it asks for the page once, logs what it leaves out and tells where the
listing goes on. -/
structure PageRun (s : Store σ) (request : PageRequest) (option : GetOption) (mid : σ)
    (entries : List PageEntry) (outcome : Result (List FileInfo)) (extra : List Call)
    (failures : List Log.Record) (later : σ) : Prop where
  runs : ∀ (t : Store σ) (state : σ) (answer : Answer) (fields : Fields), s.Alike t →
    t.service.answer (s.pageCall request) state = (.ok answer, mid) →
    Payload.HasFields answer.toValue fields → PageShows (Fields.get fields "Contents") entries →
    ∃ isTruncated, (isTruncated = true ↔ Payload.SaysTrue (Fields.get fields "IsTruncated")) ∧
      Action.Runs (t.listPaginated (some request) option) state
        (outcome.map fun files =>
          ⟨files, (Fields.get fields "NextMarker").orElse (.text ""), isTruncated⟩)
        (s.pageCall request :: extra) (t.skipRecords entries ++ failures) later
  /-- The other calls are those for the entries that are kept, or some of them if it fails. -/
  sublist : extra.Sublist (s.extraCalls option (PageEntry.keptKeys entries))
  complete : ∀ files, outcome = .ok files →
    extra = s.extraCalls option (PageEntry.keptKeys entries)
  /-- Besides what is left out, just failures are logged. -/
  errors : ∀ record ∈ failures, record.level = .error
  quiet : ∀ files, outcome = .ok files → failures = []
  /-- It succeeds just if all that is asked for can be had, and lists the entries that are kept. -/
  files : ∀ files, outcome = .ok files ↔
    ∃ tags urls, s.Gives option (PageEntry.keptKeys entries) mid tags urls ∧
      files = (PageEntry.kept entries).mapIdx fun i e =>
        e.file.enriched option (tags.getD i none) (urls.getD i .null)

end Store

end BucketStore
