import RegisterAssembly.Proofs.Composition

/-!
# Corresponding listings

Two texts can have the same tokens in different places.  Their listings correspond if the tokens
agree one by one in all but their offsets and, for some kinds, their columns, and if what is told
about a token of the one is told about the token of the other.  Steps of a session on such texts
agree: they leave the same payloads, and their diagnostics differ in what is not told only.
-/

namespace RegisterAssembly

/-! ## Tokens apart from their places -/

namespace Token

/-- The token without its offset and, unless its kind is one of those chosen, its column. -/
def outline (placed : Kind → Bool) (token : Token) : Token :=
  { token with offset := 0, column := if placed token.kind then token.column else 0 }

variable {placed : Kind → Bool} {left right : Token}

theorem kind_eq_of_outline (same : left.outline placed = right.outline placed) :
    left.kind = right.kind :=
  (congrArg Token.kind same :)

theorem text_eq_of_outline (same : left.outline placed = right.outline placed) :
    left.text = right.text :=
  (congrArg Token.text same :)

theorem line_eq_of_outline (same : left.outline placed = right.outline placed) :
    left.line = right.line :=
  (congrArg Token.line same :)

theorem file_eq_of_outline (same : left.outline placed = right.outline placed) :
    left.file = right.file :=
  (congrArg Token.file same :)

/-- Tokens of a chosen kind keep their places. -/
theorem place_eq_of_outline (same : left.outline placed = right.outline placed)
    (chosen : placed left.kind) : left.place = right.place := by
  have columns := congrArg Token.column same
  simp only [outline, ← kind_eq_of_outline same, if_pos chosen] at columns
  rw [place, place, file_eq_of_outline same, line_eq_of_outline same, columns]

theorem annotated_outline (target : Target) (line : Nat) (reached : Bool) (token : Token) :
    (token.outline placed).annotated target line reached =
      (token.annotated target line reached).outline placed := by
  have denoted : (token.outline placed).denoted? target = token.denoted? target := rfl
  have kinds : (token.outline placed).kind = token.kind := rfl
  rw [annotated, annotated, denoted, kinds]
  split
  · rfl
  · split
    · split <;> rfl
    · rfl

/-- Whether a token is rejected depends on its kind, its text and the labels. -/
theorem rejected_congr {target : Target} {tokens others : List Token}
    (kinds : left.kind = right.kind) (texts : left.text = right.text)
    (declared : ∀ name, Declares tokens name ↔ Declares others name) :
    left.Rejected target tokens ↔ right.Rejected target others := by
  simp only [Rejected, Malformed, Unknown, kinds, texts, declared,
    denotes_congr kinds texts]

theorem overlong_congr (kinds : left.kind = right.kind) (texts : left.text = right.text) :
    left.Overlong ↔ right.Overlong := by
  simp only [Overlong, kinds, texts]

end Token

theorem annotateFrom_outline (placed : Kind → Bool) (target : Target) (line : Nat)
    (reached : Bool) (tokens : List Token) :
    annotateFrom target line reached (tokens.map (Token.outline placed)) =
      (annotateFrom target line reached tokens).map (Token.outline placed) := by
  induction tokens generalizing line reached with
  | nil => rfl
  | cons token tokens ih =>
      have counted : breaks [token.outline placed] = breaks [token] := rfl
      have kinds : (token.outline placed).kind = token.kind := rfl
      rw [List.map_cons, annotateFrom, annotateFrom, List.map_cons, Token.annotated_outline,
        counted, kinds, ih]

theorem map_eq_map_of_map_eq {α β γ : Type} {f : α → β} {g h : α → γ} {left right : List α}
    (same : left.map f = right.map f)
    (each : ∀ a ∈ left, ∀ b ∈ right, f a = f b → g a = h b) : left.map g = right.map h := by
  induction left generalizing right with
  | nil => rw [List.map_eq_nil_iff.mp same.symm, List.map_nil, List.map_nil]
  | cons a left ih =>
      cases right with
      | nil => cases same
      | cons b right =>
          obtain ⟨first, rest⟩ := List.cons.inj same
          rw [List.map_cons, List.map_cons, each a List.mem_cons_self b List.mem_cons_self first,
            ih rest fun a member b member' =>
              each a (List.mem_cons_of_mem _ member) b (List.mem_cons_of_mem _ member')]

/-! ## Listings and steps that correspond -/

/-- Listings whose tokens agree one by one in their outlines, so that a problem with a token of the
one is told like a problem with that of the other.  Nothing is told about line breaks. -/
structure Listing.Corresponds (placed : Kind → Bool) (tell tell' : Diagnostic → Diagnostic)
    (left right : Listing) : Prop where
  outline_eq : left.tokens.map (Token.outline placed) = right.tokens.map (Token.outline placed)
  tell_eq : ∀ token ∈ left.tokens, ∀ other ∈ right.tokens,
    token.outline placed = other.outline placed → token.kind ≠ .newline → ∀ problem,
      tell ⟨problem, some token.place, left.line? token.line⟩ =
        tell' ⟨problem, some other.place, right.line? other.line⟩

theorem Annotator.shape_eq_of_outline {placed : Kind → Bool} {left right : List Token}
    (same : left.map (Token.outline placed) = right.map (Token.outline placed)) :
    shape left = shape right := by
  apply map_eq_map_of_map_eq same
  intro token _ other _ outlined
  rw [Token.kind_eq_of_outline outlined, Token.text_eq_of_outline outlined]

namespace Listing

variable {placed : Kind → Bool} {tell tell' : Diagnostic → Diagnostic} {left right : Listing}

/-- The tokens of a listing by their kinds, each with what is told of its diagnostic. -/
def told (target : Target) (tell : Diagnostic → Diagnostic) (listing : Listing) :
    List (Kind × Option Diagnostic) :=
  listing.tokens.map fun token => (token.kind, (listing.diagnose? target token).map tell)

/-- Of corresponding listings the same is told. -/
theorem Corresponds.told_eq (corresponds : Corresponds placed tell tell' left right)
    (target : Target) : left.told target tell = right.told target tell' := by
  apply map_eq_map_of_map_eq corresponds.outline_eq
  intro token member other member' outlined
  have kinds := Token.kind_eq_of_outline outlined
  have texts := Token.text_eq_of_outline outlined
  have labels : left.labels = right.labels :=
    Annotator.labelsFrom_of_shape_eq (Annotator.shape_eq_of_outline corresponds.outline_eq) 0
  have found : Finding.ofToken target left.labels token =
      Finding.ofToken target right.labels other := by
    simp only [Finding.ofToken, labels, kinds, texts]
  by_cases newline : token.kind = .newline
  · rw [Annotator.diagnose?_of_idle target left (.inl newline),
      Annotator.diagnose?_of_idle target right (.inl (kinds ▸ newline)), kinds]
    rfl
  · rw [kinds, diagnose?, diagnose?, found, Option.map_map, Option.map_map]
    congr 2
    funext problem
    exact corresponds.tell_eq token member other member' outlined newline problem

end Listing

namespace Annotator

variable {annotator : Annotator} {listing : Listing}

/-- What is told of the complaints of a run is what is told of the tokens before the first invalid
one. -/
theorem map_complaints (tell : Diagnostic → Diagnostic)
    (unfailing : annotator.failure? listing = none) :
    (complaints (annotator.judged listing)).map tell =
      ((listing.told annotator.target tell).takeWhile (·.1 ≠ .invalid)).filterMap Prod.snd := by
  rw [complaints_eq_filterMap unfailing, List.map_filterMap, Listing.told, List.takeWhile_map,
    List.filterMap_map]
  rfl

/-- What is told of the alarm of a run is what is told of the first invalid token. -/
theorem map_alarm? (tell : Diagnostic → Diagnostic)
    (bound : Decimal.Writable annotator.target.registerBound)
    (unfailing : annotator.failure? listing = none) :
    (annotator.alarm? listing).map tell =
      ((listing.told annotator.target tell).find? (·.1 = .invalid)).bind Prod.snd := by
  rw [alarm?_eq_bind bound unfailing, Option.map_bind, Listing.told, List.find?_map,
    Option.bind_map]
  rfl

/-- Listings of the same outlines have equally many diagnostics. -/
theorem length_diagnostics_of_outline_eq {placed : Kind → Bool} {again : Listing}
    (bound : Decimal.Writable annotator.target.registerBound)
    (outlined : listing.tokens.map (Token.outline placed) =
      again.tokens.map (Token.outline placed))
    (unfailing : annotator.failure? listing = none)
    (unfailing' : annotator.failure? again = none) :
    (diagnostics (annotator.judged listing)).length =
      (diagnostics (annotator.judged again)).length := by
  -- It is enough to tell of each diagnostic that there is one.
  let tell : Diagnostic → Diagnostic := fun _ => ⟨.stated "" none, none, none⟩
  have corresponds : Listing.Corresponds placed tell tell listing again :=
    ⟨outlined, fun _ _ _ _ _ _ _ => rfl⟩
  have told : (diagnostics (annotator.judged listing)).map tell =
      (diagnostics (annotator.judged again)).map tell := by
    rw [diagnostics_judged, diagnostics_judged, List.map_append, List.map_append,
      ← Option.toList_map, ← Option.toList_map, map_complaints tell unfailing,
      map_complaints tell unfailing', map_alarm? tell bound unfailing,
      map_alarm? tell bound unfailing', corresponds.told_eq]
  simpa only [List.length_map] using congrArg List.length told

/-- What is told of the recorded diagnostics depends on what is told of the tokens. -/
theorem map_recorded (tell : Diagnostic → Diagnostic)
    (bound : Decimal.Writable annotator.target.registerBound)
    (returned : (annotator.run listing).fault = none) :
    (annotator.recorded listing).map tell =
      (((listing.told annotator.target tell).takeWhile (·.1 ≠ .invalid)).filterMap
        Prod.snd).take annotator.report.room ++
      (((listing.told annotator.target tell).find? (·.1 = .invalid)).bind Prod.snd).toList := by
  have unfailing := failure?_of_returned returned
  rw [recorded_of_returned returned, List.map_append, List.map_take, map_complaints tell unfailing,
    ← Option.toList_map, map_alarm? tell bound unfailing]

end Annotator

/-- Steps that leave tokens of the same outlines, and reports of which the same is told. -/
structure Step.Corresponds (placed : Kind → Bool) (tell tell' : Diagnostic → Diagnostic)
    (left right : Step) : Prop where
  tokens_eq : ∃ listing listing', left.session.current = some listing ∧
    right.session.current = some listing' ∧
      listing.tokens.map (Token.outline placed) = listing'.tokens.map (Token.outline placed)
  diagnostics_eq : left.session.report.diagnostics.toList.map tell =
    right.session.report.diagnostics.toList.map tell'

namespace Session

variable {session : Session} {placed : Kind → Bool} {tell tell' : Diagnostic → Diagnostic}
  {source source' file file' : String}

/-- Steps without a fault correspond on corresponding listings. -/
theorem corresponds_assemble
    (corresponds : Listing.Corresponds placed tell tell' (.scan source file) (.scan source' file'))
    (returned : (session.assemble source file).fault = none)
    (returned' : (session.assemble source' file').fault = none) :
    Step.Corresponds placed tell tell' (session.assemble source file)
      (session.assemble source' file') := by
  have valid := valid_of_returned source file returned
  have bound : Decimal.Writable session.annotator.target.registerBound :=
    Target.writable_of_valid valid
  obtain ⟨fault, current, _⟩ := assemble_of_valid source file valid
  obtain ⟨fault', current', _⟩ := assemble_of_valid source' file' valid
  rw [fault] at returned
  rw [fault'] at returned'
  constructor
  · refine ⟨_, _, current, current', ?_⟩
    rw [Annotator.run_tokens_eq_annotateFrom returned,
      Annotator.run_tokens_eq_annotateFrom returned', ← annotateFrom_outline,
      ← annotateFrom_outline, corresponds.outline_eq]
  · rw [diagnostics_assemble valid, diagnostics_assemble valid,
      Annotator.map_recorded tell bound returned, Annotator.map_recorded tell' bound returned',
      corresponds.told_eq]

/-- If one of two listings of the same outlines has no token that takes too many digits, neither has
the other, unless one of its places cannot be written. -/
theorem within_of_outline_eq
    (outlined : (Listing.scan source file).tokens.map (Token.outline placed) =
      (Listing.scan source' file').tokens.map (Token.outline placed))
    (writable : ∀ token ∈ (Listing.scan source file).tokens,
      ∀ other ∈ (Listing.scan source' file').tokens, token.outline placed = other.outline placed →
        token.kind ≠ .newline → token.place.Writable → other.place.Writable) {target : Target}
    (within : ∀ index token, Annotator.Reached (Listing.scan source file).tokens index token →
      ¬ token.ExceedsDigits target (Listing.scan source file).tokens) :
    ∀ index token, Annotator.Reached (Listing.scan source' file').tokens index token →
      ¬ token.ExceedsDigits target (Listing.scan source' file').tokens := by
  have shaped := Annotator.shape_eq_of_outline outlined
  rintro index other ⟨found', reached'⟩ exceeds
  obtain ⟨token, found, same⟩ : ∃ token,
      (Listing.scan source file).tokens[index]? = some token ∧
        token.outline placed = other.outline placed := by
    have here := congrArg (·[index]?) outlined
    simp only [List.getElem?_map, found', Option.map_some, Option.map_eq_some_iff] at here
    exact here
  have kinds := Token.kind_eq_of_outline same
  have texts := Token.text_eq_of_outline same
  have reached : Annotator.Reached (Listing.scan source file).tokens index token := by
    refine ⟨found, ?_⟩
    rwa [Annotator.valid_iff_shape, Annotator.shape_take, shaped, ← Annotator.shape_take,
      ← Annotator.valid_iff_shape]
  have declared (name : String) : Declares (Listing.scan source file).tokens name ↔
      Declares (Listing.scan source' file').tokens name :=
    Annotator.declares_of_shape_eq shaped name
  have rejected : token.Rejected target (Listing.scan source file).tokens ↔
      other.Rejected target (Listing.scan source' file').tokens :=
    Token.rejected_congr kinds texts declared
  apply within index token reached
  rcases exceeds with long | ⟨refused, unwritable⟩
  · exact .inl ((Token.overlong_congr kinds texts).mpr long)
  · have other_kind : token.kind ≠ .newline := by
      rcases refused with (⟨immediate | register, _⟩ | ⟨instruction, _⟩) | invalid <;> simp [*]
    refine .inr ⟨?_, ?_⟩
    · rwa [rejected, kinds]
    · exact mt (writable token (List.mem_of_getElem? found) other (List.mem_of_getElem? found')
        same other_kind) unwritable

theorem returned_of_outline_eq
    (outlined : (Listing.scan source file).tokens.map (Token.outline placed) =
      (Listing.scan source' file').tokens.map (Token.outline placed))
    (writable : ∀ token ∈ (Listing.scan source file).tokens,
      ∀ other ∈ (Listing.scan source' file').tokens, token.outline placed = other.outline placed →
        token.kind ≠ .newline → token.place.Writable → other.place.Writable)
    (returned : (session.assemble source file).fault = none) :
    (session.assemble source' file').fault = none := by
  have valid := valid_of_returned source file returned
  have bound : Decimal.Writable session.annotator.target.registerBound :=
    Target.writable_of_valid valid
  have room {text name : String} :
      ∀ token ∈ (Listing.scan text name).tokens, (Listing.scan text name).HasRoom token :=
    fun _ => Listing.hasRoom_of_mem_scan
  rw [(assemble_of_valid source file valid).1, Annotator.run_fault_eq_none_iff bound room]
    at returned
  obtain ⟨within, roomy⟩ := returned
  have within' := within_of_outline_eq outlined writable within
  have counted := Annotator.length_diagnostics_of_outline_eq bound outlined
    ((Annotator.failure?_eq_none_iff bound room).mpr within)
    ((Annotator.failure?_eq_none_iff bound room).mpr within')
  rw [(assemble_of_valid source' file' valid).1, Annotator.run_fault_eq_none_iff bound room,
    ← counted]
  exact ⟨within', roomy⟩

end Session
end RegisterAssembly
