import TagWeave.Retrieval.Fragments
import TagWeave.Retrieval.World

/-!
# Retrievers

A retriever resolves a tag to content. Retrievers form trees: the leaves have fixed
content, call code of the application, or read stored fragments; the inner ones try
several sources, keep content in a cache, or do something before they ask another.

Trying several sources ends with the first answer. A failed source is only told in the
log, but a cancellation or a request to end the program ends the trial. If all sources
fail, the content for that case is the answer, and without any the last failure.

In place of a retriever there may be any other thing; asking it fails.
-/

namespace TagWeave

/-- What a retriever gives: content, or a value that is none. -/
inductive Answer where
  | content (content : Content)
  | value (value : Value)
  deriving Repr

namespace Answer

/-- The name of an answer's type. -/
def typeName : Answer → String
  | content _ => "CacheableContent"
  | value v => v.typeName

/-- The content that an answer stands for: a text is content without labels. -/
def toContent : Answer → Except Fault Content
  | content c => .ok c
  | value (.str text) => .ok { text }
  | value v => .error (.notContent v.typeName)

end Answer

/-- Ways to resolve a tag. The application's code is given the tag, and for `leaf` and `before` also
whether the render has a token. -/
inductive Retriever (τ σ : Type) where
  | static (content : Content)
  | function (run : ViewTag → Scene τ σ → Outcome Answer × Scene τ σ)
  | stored (store : FragmentStore)
  | fallback (sources : List (Retriever τ σ)) (otherwise : Option Content)
  | caching (inner : Retriever τ σ) (cache : String) (lifetime? : Option τ)
  | leaf (run : ViewTag → Bool → Scene τ σ → Outcome Answer × Scene τ σ)
  | before (act : ViewTag → Bool → Scene τ σ → Scene τ σ) (inner : Retriever τ σ)
  | foreign (typeName : String)

namespace Retriever

variable {τ σ : Type}

/-- The name of a retriever's type. -/
def typeName : Retriever τ σ → String
  | static _ => "StaticRetriever"
  | function _ => "FunctionRetriever"
  | stored _ => "FileRetriever"
  | fallback _ _ => "FallbackRetriever"
  | caching _ _ _ => "CachingRetriever"
  | leaf _ | before _ _ => "Leaf"
  | foreign typeName => typeName

/-- Whether it is a retriever at all. -/
def isGenuine : Retriever τ σ → Bool
  | foreign _ => false
  | _ => true

/-- A retriever that tries several sources, with an answer for the case that all fail. -/
def ofSources (sources : List (Retriever τ σ)) (otherwise : Option Answer) :
    Outcome (Retriever τ σ) :=
  match otherwise with
  | none => .ok (fallback sources none)
  | some answer =>
    match answer.toContent with
    | .ok content => .ok (fallback sources (some content))
    | .error f => .error (.fault f)

/-- The outcome of a function, whose text counts as content. -/
def asContent : Outcome Answer → Outcome Answer
  | .error e => .error e
  | .ok answer =>
    match answer.toContent with
    | .ok content => .ok (.content content)
    | .error f => .error (.fault f)

/-- What trying several sources comes to: an outcome, or the last failure of all. -/
inductive Trial where
  | ended (outcome : Outcome Answer)
  | exhausted (last? : Option Error)

variable [Add τ] [LE τ] [DecidableLE τ]

mutual

/-- Resolves a tag. -/
def retrieve : Retriever τ σ → ViewTag → Bool → World τ σ → Outcome Answer × World τ σ
  | static content, _, _, world => (.ok (.content content), world)
  | function run, tag, _, world =>
    match run tag world.scene with
    | (outcome, scene) => (asContent outcome, { world with scene })
  | stored store, tag, _, world =>
    match store.fetch world.scene.files tag with
    | .ok content => (.ok (.content content), world)
    | .error f => (.error (.fault f), world)
  | fallback sources otherwise, tag, guarded, world =>
    match tryEach sources tag guarded none world with
    | (.ended outcome, world) => (outcome, world)
    | (.exhausted last?, world) =>
      match otherwise, last? with
      | some content, _ =>
        (.ok (.content content), world.note Log.warning .retrieval
          ("no source resolved " ++ tag.exampleNeedle ++ ", using fallback content"))
      | none, some e => (.error e, world)
      | none, none => (.error (.fault (.noSources tag.name)), world)
  | caching inner cache lifetime?, tag, guarded, world =>
    match world.lookUp cache tag.cacheKey with
    | (some content, world) =>
      (.ok (.content content), world.note Log.debug .retrieval ("cache hit for " ++ tag.cacheKey))
    | (none, world) =>
      match retrieve inner tag guarded world with
      | (.error e, world) => (.error e, world)
      | (.ok answer, world) =>
        match answer.toContent with
        | .error f => (.error (.fault f), world)
        | .ok content => (.ok (.content content), world.keep cache tag.cacheKey content lifetime?)
  | leaf run, tag, guarded, world =>
    match run tag guarded world.scene with
    | (outcome, scene) => (outcome, { world with scene })
  | before act inner, tag, guarded, world =>
    retrieve inner tag guarded { world with scene := act tag guarded world.scene }
  | foreign typeName, _, _, world => (.error (.fault (.noMember typeName "retrieve")), world)

/-- Tries sources one after the other, after others whose last failure is given. -/
def tryEach : List (Retriever τ σ) → ViewTag → Bool → Option Error → World τ σ → Trial × World τ σ
  | [], _, _, last?, world => (.exhausted last?, world)
  | source :: sources, tag, guarded, _, world =>
    match world.scene.check guarded ("fallback <" ++ tag.name ++ ">") with
    | some why => (.ended (.error (.cancelled why)), world)
    | none =>
      match retrieve source tag guarded world with
      | (.ok answer, world) => (.ended (.ok answer), world)
      | (.error e, world) =>
        if e.isFinal then (.ended (.error e), world)
        else tryEach sources tag guarded (some e)
          (world.noteFailure ("source " ++ source.typeName ++ " failed for " ++ tag.exampleNeedle) e)

end

end Retriever

end TagWeave
