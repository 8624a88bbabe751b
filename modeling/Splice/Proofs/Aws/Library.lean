import Splice.Aws.Library

/-! # What the library keeps to

The library in the place of the SDK does what is asked of an SDK: `sends_client`, `shows_client` and
`loadsRegion_sdk`.
-/

namespace Splice.Aws.Library

variable {limit : Nat}

private theorem isTransient_of_lt_resendings (answers : Nat → Answer) {i : Nat}
    (resent : i < resendings limit answers) : isTransient (answers i) = true := by
  induction limit generalizing answers i with
  | zero => contradiction
  | succ limit ih =>
    rw [resendings] at resent
    split at resent
    · next transient =>
      cases i with
      | zero => exact transient
      | succ i => exact ih (fun i => answers (i + 1)) (Nat.lt_of_succ_lt_succ resent)
    · contradiction

private theorem isFailure_of_isTransient (request : Request) {answer : Answer}
    (transient : isTransient answer = true) : answer.IsFailure request.absenceError := by
  cases answer with
  | serviceError code message =>
    refine .error fun same => ?_
    have listed : transientErrors.contains request.absenceError = true := same ▸ transient
    cases request <;> contradiction
  | unreachable cause => exact .unreachable
  | malformed => exact .malformed
  | _ => contradiction

theorem sends_client (limit : Nat) :
    (client limit).Sends fun _ answer => isTransient answer = true where
  last _ answers := ⟨resendings limit answers, rfl⟩
  again _ answers _ resent := isTransient_of_lt_resendings answers (Nat.lt_of_succ_lt_succ resent)
  failure request _ := isFailure_of_isTransient request

private theorem infix_intercalate {separator text : String} {texts : List String}
    (member : text ∈ texts) : text.toList <:+: (separator.intercalate texts).toList := by
  induction texts with
  | nil => contradiction
  | cons head rest ih =>
    by_cases last : rest = []
    · subst last
      obtain rfl := List.mem_singleton.mp member
      simp only [String.intercalate_singleton, List.infix_rfl]
    · rw [String.intercalate_cons_of_ne_nil last, String.toList_append, String.toList_append]
      rcases List.mem_cons.mp member with rfl | later
      · rw [List.append_assoc]
        exact (List.prefix_append _ _).isInfix
      · exact (ih later).trans (List.suffix_append _ _).isInfix

theorem shows_client (limit : Nat) : (client limit).Shows causes where
  chain _ _ _ member := infix_intercalate member
  connection _ cause := by simp [causes]
  declared request code message declared := by
    simp only [causes, if_pos (List.contains_iff_mem.mpr declared), List.mem_singleton]
  undeclared request code message undeclared := by
    refine ⟨" \x7d", ?_⟩
    simp only [causes, if_neg (undeclared ∘ List.contains_iff_mem.mp), recordText,
      String.append_assoc, List.mem_cons, List.not_mem_nil, or_false, or_true]

variable {overrides : Overrides} {surroundings other : Surroundings}

private theorem filledValue?_eq (agrees : surroundings.AgreesApartFromRegion other) {name : String}
    (noRegion : name ≠ "AWS_REGION") (noDefault : name ≠ "AWS_DEFAULT_REGION") :
    filledValue? other name = filledValue? surroundings name := by
  rw [filledValue?, filledValue?, agrees.vars name noRegion noDefault]

private theorem hasKeyVariables_eq (agrees : surroundings.AgreesApartFromRegion other) :
    hasKeyVariables other = hasKeyVariables surroundings := by
  rw [hasKeyVariables, hasKeyVariables, filledValue?_eq agrees (by decide) (by decide),
    agrees.vars "AWS_SECRET_ACCESS_KEY" (by decide) (by decide),
    filledValue?_eq agrees (by decide) (by decide), filledValue?_eq agrees (by decide) (by decide)]

private theorem hasCredentials_eq (agrees : surroundings.AgreesApartFromRegion other) :
    hasCredentials overrides other = hasCredentials overrides surroundings := by
  have inUse : profileInUse overrides other = profileInUse overrides surroundings := by
    rw [profileInUse, profileInUse, agrees.vars "AWS_PROFILE" (by decide) (by decide)]
  rw [hasCredentials, hasCredentials, hasKeyVariables_eq agrees, agrees.config, agrees.credentials,
    inUse]

theorem loadsRegion_sdk (limit : Nat) : (sdk limit).LoadsRegion profileRegion? where
  chain _ _ := rfl
  rest overrides surroundings other agrees same := by
    simp only [sdk] at same ⊢
    rw [same, hasCredentials_eq agrees]

end Splice.Aws.Library
