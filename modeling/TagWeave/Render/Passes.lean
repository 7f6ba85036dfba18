import TagWeave.Error
import TagWeave.Report
import TagWeave.Text.Order
import TagWeave.ViewTag.Substitution

/-!
# Passes

A text is expanded in passes. A pass interpolates the text, finds the tags in it,
resolves them and puts their contents in place of their needles; the text that results
may hold placeholders and tags again, so another pass follows. The passes end when a
text holds no tags, and fail when it still does after the last pass that is allowed.

What the steps do, and to which state `ω`, is given from outside.
-/

namespace TagWeave

open TagWeave.Text

/-- The steps of a pass. `check` says whether to give up at some place, and `note` tells what a
pass is about. If `expands` is not set, no tags are looked for. -/
structure Steps (ω : Type) where
  expands : Bool := true
  check : String → ω → Option Cancellation
  interpolate : String → ω → Outcome String × ω
  find : String → Outcome (List ViewTag)
  resolve : List ViewTag → ω → Outcome (List (ViewTag × Content)) × ω
  note : String → ω → ω

/-- Tells an error about a tag's attributes in which pass it occurred. -/
def Error.inPass (pass : Nat) : Error → Error
  | .parse tag fragment f none => .parse tag fragment f (some pass)
  | e => e

/-- Notes a pass that resolved some tags. -/
def Report.recordResolved (report : Report) (resolved : List (ViewTag × Content)) : Report :=
  resolved.foldl (fun report (tag, content) => report.noteTag tag.name content.labels)
    (report.recordPass resolved.length)

/-- One needle of each of some tags, in order and without repetitions. -/
def pendingNeedles (tags : List ViewTag) : List String :=
  sorted (distinct (tags.map (·.exampleNeedle)))

namespace Steps

variable {ω : Type}

/-- What is told about a pass. -/
def passNote (pass : Nat) (tags : List ViewTag) : String :=
  "pass " ++ toString pass ++ ": " ++ toString tags.length ++ " distinct view tag(s), " ++
    toString (tags.flatMap ViewTag.needles).length ++ " needle(s)"

/-- The beginning of a pass: the interpolated text and the tags in it, which are none if no tags are
looked for. -/
def survey (steps : Steps ω) (pass : Nat) (text : String) (state : ω) :
    Outcome (String × List ViewTag) × ω :=
  match steps.check ("pass " ++ toString pass) state with
  | some why => (.error (.cancelled why), state)
  | none =>
    match steps.interpolate text state with
    | (.error e, state) => (.error e, state)
    | (.ok interpolated, state) =>
      if steps.expands then
        match steps.find interpolated with
        | .error e => (.error (e.inPass pass), state)
        | .ok tags => (.ok (interpolated, tags), state)
      else (.ok (interpolated, []), state)

/-- Expands a text in at most so many more passes, after those that a report tells of. -/
def expandFrom (steps : Steps ω) (limit : Nat) :
    Nat → Report → String → ω → Outcome (String × Report) × ω
  | allowed, report, text, state =>
    match steps.survey (report.passes + 1) text state with
    | (.error e, state) => (.error e, state)
    | (.ok (interpolated, []), state) => (.ok (interpolated, report), state)
    | (.ok (interpolated, tags), state) =>
      match allowed with
      | 0 => (.error (.recursionLimit limit (pendingNeedles tags)), state)
      | allowed + 1 =>
        match steps.resolve tags (steps.note (passNote (report.passes + 1) tags) state) with
        | (.error e, state) => (.error e, state)
        | (.ok resolved, state) =>
          steps.expandFrom limit allowed (report.recordResolved resolved)
            (substitute interpolated resolved) state

/-- Expands a text in at most `limit` passes, and reports on them. -/
def expand (steps : Steps ω) (limit : Nat) (text : String) (state : ω) :
    Outcome (String × Report) × ω :=
  steps.expandFrom limit limit {} text state

end Steps

end TagWeave
