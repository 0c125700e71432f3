import DepAtlas.Proofs.Service.Calls

/-!
# What is sent for a reply

A reply is sent with its status and its body, unless a text of the body is uneven.  What a service
says about an unknown analysis, about an input that it cannot analyse and about a removal has no
uneven text, so it is sent as it is.
-/

namespace DepAtlas

namespace Text

/-- A text without marks spells out itself. -/
theorem spelledNumbers_of_unmarked {cs : List Char} (unmarked : mark ∉ cs) :
    spelledNumbers cs = cs.map Char.toNat := by
  induction cs with
  | nil => rfl
  | cons c cs ih =>
      rw [List.mem_cons, not_or] at unmarked
      rw [spelledNumbers_unmarked (Ne.symm unmarked.1), ih unmarked.2, List.map_cons]

theorem unspelled?_of_unmarked {text : String} (unmarked : mark ∉ text.toList) :
    unspelled? text = some text := by
  have numbers := spelledNumbers_of_unmarked unmarked
  have even : isUneven text = false := by
    simp [isUneven, numbers, isSurrogate_toNat]
  have back : text.toList.map (Char.ofNat ∘ Char.toNat) = text.toList :=
    (List.map_congr_left fun c _ => Char.ofNat_toNat c).trans (List.map_id _)
  rw [unspelled?, even, if_neg (by simp), numbers, List.map_map, back, String.ofList_toList]

theorem mark_not_mem_hexDigits (width number : Nat) : mark ∉ hexDigits width number := by
  have digits : ∀ digit < 16, mark ≠ Nat.digitChar digit := by decide
  intro member
  obtain ⟨digit, small, same⟩ := mem_hexDigits member
  exact digits digit small same

theorem mark_not_mem_numbered (number : Nat) : mark ∉ numbered number := by
  have plain : mark ≠ '\\' ∧ mark ≠ 'x' ∧ mark ≠ 'u' ∧ mark ≠ 'U' := by decide
  rw [numbered]
  split
  · simp [plain, mark_not_mem_hexDigits]
  · split <;> simp [plain, mark_not_mem_hexDigits]

/-- The mark cannot be printed, so it is not shown between quotes. -/
theorem mark_not_mem_quoteChar {quote : Char} (other : mark ≠ quote) (c : Char) :
    mark ∉ quoteChar quote c := by
  have plain : mark ≠ '\\' ∧ mark ≠ 'n' ∧ mark ≠ 'r' ∧ mark ≠ 't' := by decide
  have unprintable : isPrintable mark = false := by decide +kernel
  rw [quoteChar]
  split
  next special =>
    rw [Bool.or_eq_true, beq_iff_eq, beq_iff_eq] at special
    rcases special with rfl | rfl <;> simp [plain, other]
  next =>
    split
    next => simp [plain]
    next =>
      split
      next => simp [plain]
      next =>
        split
        next => simp [plain]
        next =>
          split
          next printable =>
            rw [List.mem_singleton]
            rintro rfl
            rw [unprintable] at printable
            cases printable
          next => exact mark_not_mem_numbered _

theorem mark_not_mem_quotedSpelled (text : String) : mark ∉ (quotedSpelled text).toList := by
  have other : mark ≠ delimiter text.toList := by
    rw [delimiter]
    split <;> decide
  simp only [quotedSpelled, String.toList_ofList, List.cons_append, List.mem_cons, List.mem_append,
    List.mem_flatMap, List.not_mem_nil, or_false, not_or, not_exists, not_and]
  refine ⟨other, fun number _ => ?_, other⟩
  rw [quoteNumber]
  split
  · exact mark_not_mem_numbered number
  · exact mark_not_mem_quoteChar other _

/-- A text stands for one with the same first character. -/
theorem head?_of_unspelled? {text told : String} {c : Char} {cs : List Char}
    (plain : unspelled? text = some told) (begins : text.toList = c :: cs) (other : c ≠ mark) :
    told.toList.head? = some c := by
  rw [unspelled?, begins, spelledNumbers_unmarked other] at plain
  split at plain
  next => cases plain
  next =>
    cases plain
    simp

end Text

/-- What a refusal says stands for the text itself. -/
theorem Json.unspelled?_detail (text : String) :
    (Json.object [("detail", .text text)]).unspelled? =
      (Text.unspelled? text).map fun told => .object [("detail", .text told)] := by
  have name : Text.unspelled? "detail" = some "detail" :=
    Text.unspelled?_of_unmarked (by decide +kernel)
  simp only [unspelled?, unspelledFields?, name]
  cases Text.unspelled? text <;> rfl

namespace Service

/-- A response shows a status and a body, unless a text of the body is uneven and cannot be sent. -/
def Response.Shows (response : Response) (status : Nat) (body : Json) : Prop :=
  (∀ text ∈ body.textsIn, Text.isUneven text = false) →
    response.status = status ∧ body.unspelled? = some response.body

namespace Reply

theorem shows_response (reply : Reply) : reply.response.Shows reply.status reply.body := by
  intro even
  rw [response]
  cases plain : reply.body.unspelled? with
  | some body => exact ⟨rfl, rfl⟩
  | none =>
      obtain ⟨text, inside, uneven⟩ := Json.unspelled?_eq_none_iff.1 plain
      simp [even text inside] at uneven

/-- A refusal that says a text without marks is sent as it is. -/
theorem response_error_of_unmarked {refusal : Refusal} {text : String}
    (detail : refusal.detail = .text text) (unmarked : Text.mark ∉ text.toList) :
    response (.error refusal) = ⟨refusal.status, .object [("detail", .text text)]⟩ := by
  have plain : (body (.error refusal)).unspelled? = some (.object [("detail", .text text)]) := by
    rw [body, detail, Json.unspelled?_detail, Text.unspelled?_of_unmarked unmarked, Option.map_some]
  rw [response, plain]
  rfl

theorem status_response_failed : (response (.error .failed)).status = 500 := by
  rw [response_error_of_unmarked rfl (by decide +kernel)]
  rfl

/-- Nothing else is sent for what is sent about an unknown analysis. -/
theorem response_eq_unknownAnalysis_iff {reply : Reply} :
    reply.response = ⟨404, .object [("detail", .text "Analysis not found")]⟩ ↔
      reply = .error .unknownAnalysis := by
  constructor
  · intro same
    rw [response] at same
    split at same
    next told plain =>
      rw [Response.mk.injEq] at same
      obtain ⟨status, rfl⟩ := same
      cases reply with
      | ok answer => cases status
      | error refusal =>
          cases refusal with
          | unknownAnalysis => rfl
          | unknownPath =>
              rw [body, Refusal.detail, Json.unspelled?_detail,
                Text.unspelled?_of_unmarked (by decide +kernel)] at plain
              simp at plain
          | unknownComponent id =>
              rw [body, Refusal.detail, Json.unspelled?_detail] at plain
              obtain ⟨text, plain, same⟩ := Option.map_eq_some_iff.1 plain
              have begins : (s!"Component '{id}' not found").toList =
                  'C' :: ("omponent '".toList ++ (id.toList ++ "' not found".toList)) := by
                rw [String.append_assoc, String.toList_append, String.toList_append]
                rfl
              have first := Text.head?_of_unspelled? plain begins (by decide)
              simp only [Json.object.injEq, List.cons.injEq, Prod.mk.injEq, true_and, and_true,
                Json.text.injEq] at same
              rw [same] at first
              cases first
          | wrongMethod | unreadableBody | invalid issues | rejected fault | failed => cases status
    next => cases (Response.mk.injEq _ _ _ _).mp same |>.1
  · rintro rfl
    exact response_error_of_unmarked rfl (by decide +kernel)

end Reply

/-- The message of a fault in an input has no marks. -/
theorem mark_not_mem_duplicate (id : ComponentId) (firstFile secondFile : String) :
    Text.mark ∉
      ((Fault.duplicate id firstFile secondFile).messageBy Text.quotedSpelled).toList := by
  have quoted := Text.mark_not_mem_quotedSpelled
  have begins : Text.mark ∉ "Component id ".toList := by decide +kernel
  have goesOn : Text.mark ∉ " is claimed by both ".toList := by decide +kernel
  have joins : Text.mark ∉ " and ".toList := by decide +kernel
  change Text.mark ∉ (toString _ ++ toString _ ++ toString _ ++ toString _ ++ toString _ ++
    toString _).toList
  simp only [toString, String.toList_append, List.mem_append, not_or]
  exact ⟨⟨⟨⟨⟨begins, quoted _⟩, goesOn⟩, quoted _⟩, joins⟩, quoted _⟩

/-- What is sent for an input in which two files claim one id. -/
theorem Reply.response_rejected {fault : Fault}
    (unmarked : Text.mark ∉ (fault.messageBy Text.quotedSpelled).toList) :
    response (.error (.rejected fault)) =
      ⟨400, .object [("detail", .text (fault.messageBy Text.quotedSpelled))]⟩ :=
  response_error_of_unmarked rfl unmarked

/-- An id that a request removes is a name in its path. -/
theorem Request.Asks.exists_spelled {request : Request} {id : SessionId}
    (asks : request.Asks (.remove id)) : ∃ name, id = Text.spelled name := by
  obtain ⟨names, ⟨front, pieces, _, _, rfl⟩, endpoint, found, takes⟩ := asks
  cases takes
  generalize whole : (pieces.map fun piece => Text.spelled (String.ofList piece)) = names at found
  generalize request.method = method at found
  cases found with
  | remove some =>
      have member : id ∈ pieces.map fun piece => Text.spelled (String.ofList piece) := by
        simp [whole]
      obtain ⟨piece, _, same⟩ := List.mem_map.1 member
      exact ⟨_, same.symm⟩

theorem Reply.response_removed (name : String) :
    response (.ok (.removed (Text.spelled name))) = ⟨200, .object [("deleted", .text name)]⟩ := by
  have field : Text.unspelled? "deleted" = some "deleted" :=
    Text.unspelled?_of_unmarked (by decide +kernel)
  have plain : (body (.ok (.removed (Text.spelled name)))).unspelled? =
      some (.object [("deleted", .text name)]) := by
    simp only [body, Answer.body, Json.unspelled?, Json.unspelledFields?, field,
      Text.unspelled?_spelled]
    rfl
  rw [response, plain]
  rfl

end Service

end DepAtlas
