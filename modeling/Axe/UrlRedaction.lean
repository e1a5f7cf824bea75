import Axe.TextSearch

namespace Axe

/-!
# Redaction of URLs

A URL run starts with a scheme and goes on to the next terminator or to the end of the
text.  The scan copies what is outside of the runs and writes a fixed text for each of
them, so nothing in a run shows in its output.

A scheme starts with its only `h`.  That is why no scheme can start before a run and
reach into it, and why the fixed text cannot complete a scheme.
-/

def urlSchemes : List (List Char) := ["http://".toList, "https://".toList]

/-- The text contains no scheme of a URL. -/
def FreeOfUrls (text : List Char) : Prop := ∀ scheme ∈ urlSchemes, ¬ scheme <:+: text

structure UrlRun (run : List Char) : Prop where
  starts : startsUrl run = true
  goesOn : ∀ char ∈ run, endsUrl char = false

def RunEnds (after : List Char) : Prop := ∀ char ∈ after.head?, endsUrl char = true

/-- Two texts that are the same but for what stands in their URL runs. -/
inductive AgreeOutsideUrls : List Char → List Char → Prop where
  | plain
      {text : List Char}
      (free : FreeOfUrls text) :
      AgreeOutsideUrls text text
  | run
      {before run run' after after' : List Char}
      (free : FreeOfUrls before)
      (isRun : UrlRun run)
      (isRun' : UrlRun run')
      (ends : RunEnds after)
      (ends' : RunEnds after')
      (rest : AgreeOutsideUrls after after') :
      AgreeOutsideUrls (before ++ (run ++ after)) (before ++ (run' ++ after'))

section Schemes

variable {scheme text : List Char}

theorem startsUrl_iff : startsUrl text = true ↔ ∃ scheme ∈ urlSchemes, scheme <+: text := by
  simp [startsUrl, urlSchemes, List.isPrefixOf_iff_prefix]

theorem scheme_shape (listed : scheme ∈ urlSchemes) :
    ∃ rest, scheme = 'h' :: rest ∧ rest ≠ [] ∧ 'h' ∉ rest ∧ '<' ∉ rest := by
  have either : scheme = "http://".toList ∨ scheme = "https://".toList := by
    simpa [urlSchemes] using listed
  rcases either with rfl | rfl
  · exact ⟨"ttp://".toList, by decide⟩
  · exact ⟨"ttps://".toList, by decide⟩

theorem head_of_startsUrl (starts : startsUrl text = true) : text.head? = some 'h' := by
  rcases startsUrl_iff.mp starts with ⟨scheme, listed, more, rfl⟩
  rcases scheme_shape listed with ⟨rest, rfl, _⟩
  rfl

theorem startsUrl_of_head_ne (heads : text.head? ≠ some 'h') : startsUrl text = false := by
  by_contra starts
  exact heads (head_of_startsUrl (eq_true_of_ne_false starts))

theorem not_startsUrl_of_endsUrl {char : Char} (ends : endsUrl char = true) (rest : List Char) :
    startsUrl (char :: rest) = false := by
  apply startsUrl_of_head_ne
  intro heads
  cases heads
  exact absurd ends (by decide)

theorem FreeOfUrls.not_starts (free : FreeOfUrls text) : startsUrl text = false := by
  by_contra starts
  rcases startsUrl_iff.mp (eq_true_of_ne_false starts) with ⟨scheme, listed, found⟩
  exact free scheme listed found.isInfix

theorem FreeOfUrls.tail {char : Char} (free : FreeOfUrls (char :: text)) : FreeOfUrls text :=
  fun scheme listed found => free scheme listed (found.trans (List.suffix_cons _ _).isInfix)

theorem FreeOfUrls.cons {char : Char} (free : FreeOfUrls text)
    (starts : startsUrl (char :: text) = false) :
    FreeOfUrls (char :: text) := by
  intro scheme listed found
  rcases List.infix_cons_iff.mp found with first | later
  · have started := startsUrl_iff.mpr ⟨scheme, listed, first⟩
    rw [starts] at started
    cases started
  · exact free scheme listed later

theorem startsUrl_append {before after : List Char} (some_before : before ≠ [])
    (heads : after.head? = some 'h') (starts : startsUrl (before ++ after) = true) :
    startsUrl before = true := by
  rcases startsUrl_iff.mp starts with ⟨scheme, listed, found⟩
  rcases List.prefix_or_prefix_of_prefix found (List.prefix_append before after) with
    whole | ⟨reached, split⟩
  · exact startsUrl_iff.mpr ⟨scheme, listed, whole⟩
  · rw [← split, List.prefix_append_right_inj] at found
    cases reached with
    | nil =>
      rw [List.append_nil] at split
      exact startsUrl_iff.mpr ⟨scheme, listed, split ▸ List.prefix_rfl⟩
    | cons char others =>
      -- The part of the scheme inside the run would start with its `h`.
      rcases scheme_shape listed with ⟨rest, shape, _, once, _⟩
      rcases found with ⟨more, rfl⟩
      cases heads
      rw [shape] at split
      cases before with
      | nil => exact absurd rfl some_before
      | cons first others =>
        have tails := (List.cons.inj split).2
        rw [← tails] at once
        exact absurd (List.mem_append_right _ List.mem_cons_self) once

end Schemes

/-!
## What the scan does
-/

def redactedUrl : List Char := "<redacted-url>".toList

theorem redactedUrl_eq : redactedUrl = '<' :: "redacted-url>".toList := by decide

theorem redactedUrl_unmarked : 'h' ∉ redactedUrl := by decide

theorem scrubFrom_false_cons (char : Char) (rest : List Char) : scrubFrom false (char :: rest) =
      if startsUrl (char :: rest) then redactedUrl ++ scrubFrom true rest
      else char :: scrubFrom false rest :=
  rfl

theorem scrubFrom_true_cons (char : Char) (rest : List Char) : scrubFrom true (char :: rest) =
      if endsUrl char then char :: scrubFrom false rest else scrubFrom true rest :=
  rfl

variable {char : Char}

theorem scrubFrom_start {rest : List Char} (starts : startsUrl (char :: rest) = true) :
    scrubFrom false (char :: rest) = redactedUrl ++ scrubFrom true rest := by
  rw [scrubFrom_false_cons, if_pos starts]

theorem scrubFrom_copy {rest : List Char} (starts : startsUrl (char :: rest) = false) :
    scrubFrom false (char :: rest) = char :: scrubFrom false rest := by
  rw [scrubFrom_false_cons, if_neg (by simp [starts])]

variable {run after : List Char}

theorem scrubFrom_inside (goesOn : ∀ char ∈ run, endsUrl char = false) (ends : RunEnds after) :
    scrubFrom true (run ++ after) = scrubFrom false after := by
  induction run with
  | nil =>
    cases after with
    | nil => rfl
    | cons char rest =>
      have terminates : endsUrl char = true := ends char rfl
      rw [List.nil_append, scrubFrom_copy (not_startsUrl_of_endsUrl terminates rest)]
      rw [scrubFrom_true_cons, if_pos terminates]
  | cons char rest ih =>
    rw [List.forall_mem_cons] at goesOn
    rw [List.cons_append, scrubFrom_true_cons, if_neg (by simp [goesOn.1])]
    exact ih goesOn.2

theorem UrlRun.heads (isRun : UrlRun run) (after : List Char) :
    ∀ char ∈ (run ++ after).head?, char = 'h' := by
  have first := head_of_startsUrl isRun.starts
  intro char member
  cases run with
  | nil => cases first
  | cons other rest =>
    cases first
    cases member
    rfl

theorem scrubFrom_run (isRun : UrlRun run) (ends : RunEnds after) :
    scrubFrom false (run ++ after) = redactedUrl ++ scrubFrom false after := by
  have starts : startsUrl (run ++ after) = true := by
    rcases startsUrl_iff.mp isRun.starts with ⟨scheme, listed, found⟩
    exact startsUrl_iff.mpr ⟨scheme, listed, found.trans (List.prefix_append _ _)⟩
  cases run with
  | nil => exact absurd isRun.starts (by decide)
  | cons char rest =>
    have inside : ∀ other ∈ rest, endsUrl other = false := fun other member =>
      isRun.goesOn other (List.mem_cons_of_mem _ member)
    rw [List.cons_append] at starts ⊢
    rw [scrubFrom_start starts, scrubFrom_inside inside ends]

theorem scrubFrom_before {before : List Char} (free : FreeOfUrls before)
    (heads : ∀ char ∈ after.head?, char = 'h') :
    scrubFrom false (before ++ after) = before ++ scrubFrom false after := by
  induction before with
  | nil => rfl
  | cons char rest ih =>
    have starts : startsUrl (char :: rest ++ after) = false := by
      by_contra started
      have starting := eq_true_of_ne_false started
      cases after with
      | nil =>
        rw [List.append_nil, free.not_starts] at starting
        cases starting
      | cons first others =>
        have heading : (first :: others).head? = some 'h' := by
          rw [heads first rfl]
          rfl
        have early := startsUrl_append (List.cons_ne_nil char rest) heading starting
        rw [free.not_starts] at early
        cases early
    rw [List.cons_append] at starts ⊢
    rw [scrubFrom_copy starts, ih free.tail, List.cons_append]

variable {text : List Char}

theorem scrubFrom_of_free (free : FreeOfUrls text) : scrubFrom false text = text := by
  have nothing : ∀ char ∈ ([] : List Char).head?, char = 'h' := by simp
  simpa [scrubFrom] using scrubFrom_before free nothing

theorem AgreeOutsideUrls.scrubFrom_eq {text' : List Char} (agree : AgreeOutsideUrls text text') :
    scrubFrom false text = scrubFrom false text' := by
  induction agree with
  | plain free => rfl
  | @run before run run' after after' free isRun isRun' ends ends' rest ih =>
    rw [scrubFrom_before free (isRun.heads after), scrubFrom_before free (isRun'.heads after'),
      scrubFrom_run isRun ends, scrubFrom_run isRun' ends', ih]

theorem read_of_written {part : List Char} (unmarked : '<' ∉ part)
    (written : part <+: scrubFrom false text) :
    part <+: text := by
  induction part generalizing text with
  | nil => exact List.nil_prefix
  | cons char rest ih =>
    rw [List.mem_cons, not_or] at unmarked
    cases text with
    | nil => cases List.prefix_nil.mp written
    | cons first others =>
      by_cases starts : startsUrl (first :: others) = true
      · rw [scrubFrom_start starts, redactedUrl_eq, List.cons_append] at written
        exact absurd (List.cons_prefix_cons.mp written).1.symm unmarked.1
      · rw [scrubFrom_copy (eq_false_of_ne_true starts)] at written
        rcases List.cons_prefix_cons.mp written with ⟨rfl, later⟩
        exact List.cons_prefix_cons.mpr ⟨rfl, ih unmarked.2 later⟩

theorem FreeOfUrls.cons_of_ne (free : FreeOfUrls text) (other : char ≠ 'h') :
    FreeOfUrls (char :: text) := by
  apply free.cons
  apply startsUrl_of_head_ne
  intro heads
  cases heads
  exact other rfl

theorem FreeOfUrls.append_of_ne {marks : List Char} (free : FreeOfUrls text)
    (others : ∀ mark ∈ marks, mark ≠ 'h') :
    FreeOfUrls (marks ++ text) := by
  induction marks with
  | nil => exact free
  | cons mark rest ih =>
    rw [List.forall_mem_cons] at others
    exact (ih others.2).cons_of_ne others.1

theorem free_scrubFrom (inside : Bool) (text : List Char) : FreeOfUrls (scrubFrom inside text) := by
  induction text generalizing inside with
  | nil =>
    intro scheme listed found
    rcases scheme_shape listed with ⟨rest, rfl, _⟩
    rw [scrubFrom] at found
    cases List.infix_nil.mp found
  | cons char rest ih =>
    cases inside with
    | true =>
      by_cases ends : endsUrl char = true
      · rw [scrubFrom_true_cons, if_pos ends]
        apply (ih false).cons_of_ne
        rintro rfl
        exact absurd ends (by decide)
      · rw [scrubFrom_true_cons, if_neg ends]
        exact ih true
    | false =>
      by_cases starts : startsUrl (char :: rest) = true
      · rw [scrubFrom_start starts]
        exact (ih true).append_of_ne fun mark member same => redactedUrl_unmarked (same ▸ member)
      · have starting : startsUrl (char :: rest) = false := eq_false_of_ne_true starts
        rw [scrubFrom_copy starting]
        apply (ih false).cons
        by_contra written
        -- A scheme in the output was read as it stands there.
        rcases startsUrl_iff.mp (eq_true_of_ne_false written) with ⟨scheme, listed, found⟩
        rcases scheme_shape listed with ⟨tail, rfl, _, _, unmarked⟩
        rcases List.cons_prefix_cons.mp found with ⟨rfl, later⟩
        have read := read_of_written unmarked later
        have started := startsUrl_iff.mpr ⟨_, listed, List.cons_prefix_cons.mpr ⟨rfl, read⟩⟩
        rw [starting] at started
        cases started

end Axe
