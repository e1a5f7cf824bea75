import Axe.Checks
import Axe.JsonValue
import Axe.UrlRedaction

namespace Axe.Mcp

/-!
# Results of tools

Every result of a tool is scrubbed of URLs before it leaves the server, because the URL
of an endpoint can carry a provider's key.  The scrubbing goes into every value of a
JSON document.  It does not look at the names of the fields of objects.
-/

variable {Number : Type}

mutual

/-- Redact the URLs in the values of a JSON document. -/
def scrubUrlsIn : Json Number → Json Number
  | .text value => .text (scrubUrls value)
  | .array items => .array (scrubItems items)
  | .object fields => .object (scrubFields fields)
  | .null => .null
  | .bool value => .bool value
  | .number value => .number value

def scrubItems : List (Json Number) → List (Json Number)
  | [] => []
  | item :: rest => scrubUrlsIn item :: scrubItems rest

def scrubFields : List (String × Json Number) → List (String × Json Number)
  | [] => []
  | (name, value) :: rest => (name, scrubUrlsIn value) :: scrubFields rest

end

/-- A structured payload plus a one-line summary. -/
structure Outcome (Number : Type) where
  summary : String
  payload : Json Number

/-- An outcome with its texts redacted. -/
def Outcome.new (summary : String) (value : Except String (Json Number)) :
    Except String (Outcome Number) := do
  let payload ← value
  return { summary := scrubUrls summary, payload := scrubUrlsIn payload }

mutual

/-- The texts in a JSON document, without the names of its fields. -/
def valueTexts : Json Number → List String
  | .text value => [value]
  | .array items => itemTexts items
  | .object fields => fieldTexts fields
  | .null => []
  | .bool _ => []
  | .number _ => []

def itemTexts : List (Json Number) → List String
  | [] => []
  | item :: rest => valueTexts item ++ itemTexts rest

def fieldTexts : List (String × Json Number) → List String
  | [] => []
  | (_, value) :: rest => valueTexts value ++ fieldTexts rest

end

mutual

def fieldNames : Json Number → List String
  | .text _ => []
  | .array items => itemNames items
  | .object fields => namesOf fields
  | .null => []
  | .bool _ => []
  | .number _ => []

def itemNames : List (Json Number) → List String
  | [] => []
  | item :: rest => fieldNames item ++ itemNames rest

def namesOf : List (String × Json Number) → List String
  | [] => []
  | (name, value) :: rest => name :: (fieldNames value ++ namesOf rest)

end

/-- The text has no URL. -/
def ShowsNoUrl (text : String) : Prop :=
  mentions text "http://" = false ∧ mentions text "https://" = false

/-- No string of a document shows a URL, whether it is a value or the name of a field. -/
def Scrubbed (document : Json Number) : Prop :=
  ∀ text ∈ valueTexts document ++ fieldNames document, ShowsNoUrl text

theorem showsNoUrl_iff {text : String} : ShowsNoUrl text ↔ FreeOfUrls text.toList := by
  simp [ShowsNoUrl, FreeOfUrls, urlSchemes, ← Bool.not_eq_true, mentions_iff]

@[simp] theorem toList_scrubUrls (text : String) :
    (scrubUrls text).toList = scrubFrom false text.toList := by
  simp [scrubUrls]

theorem showsNoUrl_scrubUrls (text : String) : ShowsNoUrl (scrubUrls text) := by
  rw [showsNoUrl_iff, toList_scrubUrls]
  exact free_scrubFrom false text.toList

theorem scrubUrls_of_showsNoUrl {text : String} (clean : ShowsNoUrl text) :
    scrubUrls text = text := by
  rw [scrubUrls, scrubFrom_of_free (showsNoUrl_iff.mp clean), String.ofList_toList]

mutual

theorem fieldNames_scrubUrlsIn (document : Json Number) :
    fieldNames (scrubUrlsIn document) = fieldNames document := by
  cases document with
  | array items => simp [scrubUrlsIn, fieldNames, itemNames_scrubItems items]
  | object fields => simp [scrubUrlsIn, fieldNames, namesOf_scrubFields fields]
  | _ => rfl

theorem itemNames_scrubItems (items : List (Json Number)) :
    itemNames (scrubItems items) = itemNames items := by
  match items with
  | [] => rfl
  | item :: rest =>
    simp [scrubItems, itemNames, fieldNames_scrubUrlsIn item, itemNames_scrubItems rest]

theorem namesOf_scrubFields (fields : List (String × Json Number)) :
    namesOf (scrubFields fields) = namesOf fields := by
  match fields with
  | [] => rfl
  | (name, value) :: rest =>
    simp [scrubFields, namesOf, fieldNames_scrubUrlsIn value, namesOf_scrubFields rest]

end

mutual

theorem valueTexts_scrubUrlsIn (document : Json Number) :
    valueTexts (scrubUrlsIn document) = (valueTexts document).map scrubUrls := by
  cases document with
  | array items => simp [scrubUrlsIn, valueTexts, itemTexts_scrubItems items]
  | object fields => simp [scrubUrlsIn, valueTexts, fieldTexts_scrubFields fields]
  | _ => rfl

theorem itemTexts_scrubItems (items : List (Json Number)) :
    itemTexts (scrubItems items) = (itemTexts items).map scrubUrls := by
  match items with
  | [] => rfl
  | item :: rest =>
    simp [scrubItems, itemTexts, valueTexts_scrubUrlsIn item, itemTexts_scrubItems rest]

theorem fieldTexts_scrubFields (fields : List (String × Json Number)) :
    fieldTexts (scrubFields fields) = (fieldTexts fields).map scrubUrls := by
  match fields with
  | [] => rfl
  | (name, value) :: rest =>
    simp [scrubFields, fieldTexts, valueTexts_scrubUrlsIn value, fieldTexts_scrubFields rest]

end

theorem scrubbed_scrubUrlsIn_iff {document : Json Number} :
    Scrubbed (scrubUrlsIn document) ↔ ∀ name ∈ fieldNames document, ShowsNoUrl name := by
  rw [Scrubbed, valueTexts_scrubUrlsIn, fieldNames_scrubUrlsIn]
  constructor
  · intro clean name member
    exact clean name (List.mem_append_right _ member)
  · intro clean text member
    rcases List.mem_append.mp member with value | name
    · rcases List.mem_map.mp value with ⟨original, _, rfl⟩
      exact showsNoUrl_scrubUrls original
    · exact clean text name

/--
Redaction hides URLs: its output shows none, it keeps texts without URLs, it changes
nothing when it is repeated, and what stands in URL runs does not show.  The payload of
an outcome shows no URL exactly if no field of the result, at any depth, has a name that
shows one.
-/
theorem redaction_hides_urls
    {Number : Type}
    (text text' summary : String)
    (value : Json Number) :
    ShowsNoUrl (scrubUrls text) ∧ scrubUrls (scrubUrls text) = scrubUrls text ∧
      (ShowsNoUrl text → scrubUrls text = text) ∧
      (AgreeOutsideUrls text.toList text'.toList → scrubUrls text = scrubUrls text') ∧
      ∃ outcome, Outcome.new summary (.ok value) = .ok outcome ∧ ShowsNoUrl outcome.summary ∧
          (Scrubbed outcome.payload ↔ ∀ name ∈ fieldNames value, ShowsNoUrl name) := by
  refine ⟨showsNoUrl_scrubUrls text, ?_, scrubUrls_of_showsNoUrl, ?_, ?_⟩
  · exact scrubUrls_of_showsNoUrl (showsNoUrl_scrubUrls text)
  · intro agree
    rw [scrubUrls, scrubUrls, agree.scrubFrom_eq]
  · exact ⟨_, rfl, showsNoUrl_scrubUrls summary, scrubbed_scrubUrlsIn_iff⟩

/-- A result whose field is named by the endpoint shows the endpoint and its key. -/
theorem endpoint_in_field_name_shows : ∃ outcome, Outcome.new "probed 1 endpoint"
          (.ok (.object [("https://rpc.example.com/v1/key", .bool true)] : Json Nat)) =
        .ok outcome ∧ ¬ Scrubbed outcome.payload := by
  refine ⟨_, rfl, ?_⟩
  intro clean
  have shown := clean "https://rpc.example.com/v1/key" (by simp [scrubUrlsIn, scrubFields,
    fieldNames, namesOf])
  exact absurd shown.2 (by decide +kernel)

end Axe.Mcp
