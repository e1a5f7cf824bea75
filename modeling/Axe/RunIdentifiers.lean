import Axe.DecimalText
import Axe.HardenedJournal
import Axe.HexText

namespace Axe.Mcp

open Hardened (U64)

/-!
# Run identifiers

A run is named by its kind and by the millisecond it was minted at.  The name of its report
file is its identifier with an ending, so reading an identifier is also deciding which files
of the reports directory are reports.
-/

/-- The kinds of runs. -/
inductive RunKind where
  | loadTest
  | intentsSend
  | intentsRoundtrip
  | intentsSweep
  | intentsTraffic
  | intentsStress
  deriving DecidableEq

namespace RunKind

def all : List RunKind :=
  [loadTest, intentsSend, intentsRoundtrip, intentsSweep, intentsTraffic, intentsStress]

def slug : RunKind → String
  | loadTest => "load-test"
  | intentsSend => "intents-send"
  | intentsRoundtrip => "intents-roundtrip"
  | intentsSweep => "intents-sweep"
  | intentsTraffic => "intents-traffic"
  | intentsStress => "intents-stress"

def start (kind : RunKind) : String := "axe-" ++ kind.slug ++ "-"

end RunKind

/-- The identifier of a run. -/
structure RunId where
  text : String
  deriving DecidableEq

namespace RunId

def kindOf (text : String) : Option RunKind :=
  RunKind.all.find? fun kind => (afterStart kind.start text).isSome

/-- Accept a text that starts like an identifier. -/
def parse (text : String) : Option RunId := (kindOf text).map fun _ => ⟨text⟩

def kind (id : RunId) : Option RunKind := kindOf id.text

/-- The identifier of a run started at a time. -/
def ofMillis (kind : RunKind) (millis : U64) : RunId := ⟨kind.start ++ decimalText millis.toNat⟩

def mintedMillis (id : RunId) : U64 :=
  BitVec.ofNat 64
    (((kindOf id.text).bind fun kind =>
      (afterStart kind.start id.text).bind (parseUnsigned (2 ^ 64))).getD 0)

def reportEnding : String := ".json"

/-- The file of the report of a run. -/
def reportFileName (id : RunId) : String := id.text ++ reportEnding

def beforeEnd (ending text : String) : Option String :=
  if ending.toList.isSuffixOf text.toList then
    some (String.ofList (text.toList.take (text.toList.length - ending.toList.length)))
  else
    none

/-- The run that a file is the report of. -/
def fromReportFileName (name : String) : Option RunId := (beforeEnd reportEnding name).bind parse

def Mintable (text : String) : Prop := ∃ kind millis, text = (ofMillis kind millis).text

variable {text : String}

theorem starts_iff {start : String} :
    (afterStart start text).isSome = true ↔ start.toList <+: text.toList := by
  unfold afterStart
  by_cases starts : start.toList.isPrefixOf text.toList = true
  · simp only [starts, if_true, Option.isSome_some, true_iff]
    exact ( List.isPrefixOf_iff_prefix.mp starts)
  · simp only [starts, Bool.false_eq_true, if_false, Option.isSome_none, false_iff]
    intro begins
    exact starts ( List.isPrefixOf_iff_prefix.mpr begins)

variable {kind : RunKind}

theorem start_free {other : RunKind} (starts : kind.start.toList <+: other.start.toList) :
    kind = other := by
  revert starts
  cases kind <;> cases other <;> decide

theorem kind_unique {other : RunKind} (first : kind.start.toList <+: text.toList)
    (second : other.start.toList <+: text.toList) :
    kind = other := by
  rcases List.prefix_or_prefix_of_prefix first second with begins | begins
  · exact start_free begins
  · exact (start_free begins).symm

theorem mem_all (kind : RunKind) : kind ∈ RunKind.all := by cases kind <;> decide

theorem starts_of_kindOf (found : kindOf text = some kind) : kind.start.toList <+: text.toList := by
  rw [kindOf] at found
  have begins := List.find?_some found
  exact starts_iff.mp begins

variable {id : RunId}

theorem eq_of_text_eq {other : RunId} (same : id.text = other.text) : id = other := by
  cases id
  cases other
  exact congrArg RunId.mk same

theorem parse_unique {other : RunId} (parsed : parse id.text = some other) : id = other := by
  rw [parse, Option.map_eq_some_iff] at parsed
  obtain ⟨_, _, rfl⟩ := parsed
  rfl

theorem kindOf_eq_some : kindOf text = some kind ↔ kind.start.toList <+: text.toList := by
  constructor
  · exact starts_of_kindOf
  · intro begins
    cases found : kindOf text with
    | none =>
      have refused := List.find?_eq_none.mp found kind (mem_all kind)
      exact absurd (starts_iff.mpr begins) refused
    | some other => rw [kind_unique (starts_of_kindOf found) begins]

theorem kindOf_ofMillis (kind : RunKind) (millis : U64) :
    kindOf (ofMillis kind millis).text = some kind := by
  rw [kindOf_eq_some, ofMillis, String.toList_append]
  exact List.prefix_append _ _

theorem parse_ofMillis (kind : RunKind) (millis : U64) :
    parse (ofMillis kind millis).text = some (ofMillis kind millis) := by
  rw [parse, kindOf_ofMillis]
  rfl

theorem mintedMillis_ofMillis (kind : RunKind) (millis : U64) :
    (ofMillis kind millis).mintedMillis = millis := by
  have reads : afterStart kind.start (ofMillis kind millis).text =
      some (decimalText millis.toNat) :=
    afterStart_append _ _
  have parses := parseUnsigned_decimalText millis.isLt
  rw [mintedMillis, kindOf_ofMillis, Option.bind_some, reads, Option.bind_some, parses]
  simp

theorem beforeEnd_reportFileName (id : RunId) :
    beforeEnd reportEnding id.reportFileName = some id.text := by
  have ends : reportEnding.toList.isSuffixOf id.reportFileName.toList = true := by
    rw [reportFileName, String.toList_append, List.isSuffixOf_iff_suffix]
    exact List.suffix_append _ _
  rw [beforeEnd, if_pos ends, reportFileName, String.toList_append, List.length_append,
    Nat.add_sub_cancel, List.take_left, String.ofList_toList]

theorem fromReportFileName_reportFileName (named : parse id.text = some id) :
    fromReportFileName id.reportFileName = some id := by
  rw [fromReportFileName, beforeEnd_reportFileName]
  exact named

end RunId

end Axe.Mcp
