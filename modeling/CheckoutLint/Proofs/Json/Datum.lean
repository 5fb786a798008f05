import CheckoutLint.Proofs.Json.Token

/-!
What a JSON text stands for. The tokens of a value follow from the value, and a text stands for a
value if it is cut into them. Reading goes through the tokens once and keeps what has been begun and
not ended yet; what it has read can be written again at every step, so that it accepts the tokens of
a value and nothing else.

* `Json.tokens_of_run`: what has been read, after any number of steps.
* `Json.run_tokens`: the tokens of a value are read as that value, whatever was begun before.
* `Json.read?_eq_some_iff`: a text is read as the value that it stands for.
-/

namespace CheckoutLint.Json

/-! ## Values -/

/-- The values of JSON texts. A number is kept as its numeral, an object as its members in order. -/
inductive Datum where
  | null
  | bool (value : Bool)
  | number (numeral : Text)
  | string (text : Text)
  | array (items : List Datum)
  | object (members : List (Text × Datum))

mutual

/-- The tokens of a value. -/
def Datum.tokens : Datum → List Token
  | .null => [.null]
  | .bool value => [.bool value]
  | .number numeral => [.number numeral]
  | .string text => [.string text]
  | .array [] => [.openArray, .closeArray]
  | .array (item :: items) => .openArray :: item.tokens ++ itemTokens items ++ [.closeArray]
  | .object [] => [.openObject, .closeObject]
  | .object ((key, value) :: members) =>
    .openObject :: .string key :: .colon :: value.tokens ++ memberTokens members ++ [.closeObject]

/-- The tokens of the items after the first of a list. -/
def itemTokens : List Datum → List Token
  | [] => []
  | item :: items => .comma :: item.tokens ++ itemTokens items

/-- The tokens of the members after the first of an object. -/
def memberTokens : List (Text × Datum) → List Token
  | [] => []
  | (key, value) :: members =>
    .comma :: .string key :: .colon :: value.tokens ++ memberTokens members

end

theorem itemTokens_concat (items : List Datum) (item : Datum) :
    itemTokens (items ++ [item]) = itemTokens items ++ .comma :: item.tokens := by
  induction items with
  | nil => simp [itemTokens]
  | cons first items ih => simp [itemTokens, ih]

theorem memberTokens_concat (members : List (Text × Datum)) (key : Text) (value : Datum) :
    memberTokens (members ++ [(key, value)]) =
      memberTokens members ++ .comma :: .string key :: .colon :: value.tokens := by
  induction members with
  | nil => simp [memberTokens]
  | cons first members ih =>
    obtain ⟨other, before⟩ := first
    simp [memberTokens, ih]

/-! ## Steps -/

/-- A list or an object that has been begun: what it holds in front of the value to come. -/
inductive Frame where
  | array (items : List Datum)
  | object (members : List (Text × Datum)) (key : Text)

/-- How far a reading has come, inside of what has been begun, the innermost first. -/
inductive Progress where
  | atValue (around : List Frame)
  | atKey (members : List (Text × Datum)) (around : List Frame)
  | atColon (members : List (Text × Datum)) (key : Text) (around : List Frame)
  | behind (value : Datum) (around : List Frame)

/-- Reads a token where a value is to come. A list may end there if nothing is in it yet. -/
def begin? (around : List Frame) : Token → Option Progress
  | .null => some (.behind .null around)
  | .bool value => some (.behind (.bool value) around)
  | .number numeral => some (.behind (.number numeral) around)
  | .string text => some (.behind (.string text) around)
  | .openArray => some (.atValue (.array [] :: around))
  | .openObject => some (.atKey [] around)
  | .closeArray =>
    match around with
    | .array [] :: around => some (.behind (.array []) around)
    | _ => none
  | _ => none

/-- Reads a token. An object may end where a member is to come if nothing is in it yet. -/
def step? : Progress → Token → Option Progress
  | .atValue around, token => begin? around token
  | .atKey members around, .string key => some (.atColon members key around)
  | .atKey [] around, .closeObject => some (.behind (.object []) around)
  | .atColon members key around, .colon => some (.atValue (.object members key :: around))
  | .behind item (.array items :: around), .comma =>
    some (.atValue (.array (items ++ [item]) :: around))
  | .behind item (.array items :: around), .closeArray =>
    some (.behind (.array (items ++ [item])) around)
  | .behind value (.object members key :: around), .comma =>
    some (.atKey (members ++ [(key, value)]) around)
  | .behind value (.object members key :: around), .closeObject =>
    some (.behind (.object (members ++ [(key, value)])) around)
  | _, _ => none

/-- Reads tokens, one after the other. -/
def run? (progress : Progress) (tokens : List Token) : Option Progress :=
  tokens.foldlM step? progress

/-- The value with the given tokens, if there is one. -/
def ofTokens? (tokens : List Token) : Option Datum :=
  match run? (.atValue []) tokens with
  | some (.behind value []) => some value
  | _ => none

/-- The value that a text stands for, if it is a JSON text. -/
def read? (s : Text) : Option Datum := (tokens? s).bind ofTokens?

/-! ## What has been read -/

/-- The tokens of a list that has been begun. -/
def begunItems : List Datum → List Token
  | [] => [.openArray]
  | item :: items => .openArray :: item.tokens ++ itemTokens items ++ [.comma]

/-- The tokens of an object that has been begun. -/
def begunMembers : List (Text × Datum) → List Token
  | [] => [.openObject]
  | (key, value) :: members =>
    .openObject :: .string key :: .colon :: value.tokens ++ memberTokens members ++ [.comma]

/-- The tokens of what has been begun. -/
def Frame.tokens : Frame → List Token
  | .array items => begunItems items
  | .object members key => begunMembers members ++ [.string key, .colon]

/-- The tokens of all that has been begun. -/
def begun (around : List Frame) : List Token := around.reverse.flatMap Frame.tokens

theorem begun_cons (frame : Frame) (around : List Frame) :
    begun (frame :: around) = begun around ++ frame.tokens := by
  simp [begun]

/-- The tokens that have been read. -/
def Progress.tokens : Progress → List Token
  | atValue around => begun around
  | atKey members around => begun around ++ begunMembers members
  | atColon members key around => begun around ++ begunMembers members ++ [.string key]
  | behind value around => begun around ++ value.tokens

theorem begunMembers_nil : begunMembers [] = [.openObject] := rfl

theorem begunItems_concat (items : List Datum) (item : Datum) :
    begunItems (items ++ [item]) = begunItems items ++ item.tokens ++ [.comma] := by
  cases items with
  | nil => simp [begunItems, itemTokens]
  | cons first items => simp [begunItems, itemTokens_concat]

theorem begunMembers_concat (members : List (Text × Datum)) (key : Text) (value : Datum) :
    begunMembers (members ++ [(key, value)]) =
      begunMembers members ++ .string key :: .colon :: value.tokens ++ [.comma] := by
  cases members with
  | nil => simp [begunMembers, memberTokens]
  | cons first members =>
    obtain ⟨other, before⟩ := first
    simp [begunMembers, memberTokens_concat]

/-- The tokens of a list end with those of its last item. -/
theorem tokens_array_concat (items : List Datum) (item : Datum) :
    (Datum.array (items ++ [item])).tokens = begunItems items ++ item.tokens ++ [.closeArray] := by
  cases items with
  | nil => simp [begunItems, Datum.tokens, itemTokens]
  | cons first items => simp [begunItems, Datum.tokens, itemTokens_concat]

/-- The tokens of an object end with those of its last member. -/
theorem tokens_object_concat (members : List (Text × Datum)) (key : Text) (value : Datum) :
    (Datum.object (members ++ [(key, value)])).tokens =
      begunMembers members ++ .string key :: .colon :: value.tokens ++ [.closeObject] := by
  cases members with
  | nil => simp [begunMembers, Datum.tokens, memberTokens]
  | cons first members =>
    obtain ⟨other, before⟩ := first
    simp [begunMembers, Datum.tokens, memberTokens_concat]

/-- A token that begins a value stands behind all that is open. -/
theorem tokens_of_begin {around : List Frame} {next : Progress} {token : Token}
    (step : begin? around token = some next) : next.tokens = begun around ++ [token] := by
  cases token with
  | null | bool | number | string =>
    obtain rfl := Option.some.inj step
    simp [Progress.tokens, Datum.tokens]
  | openArray =>
    obtain rfl := Option.some.inj step
    simp [Progress.tokens, begun_cons, Frame.tokens, begunItems]
  | openObject =>
    obtain rfl := Option.some.inj step
    simp [Progress.tokens, begunMembers_nil]
  | closeArray =>
    rw [begin?.eq_def] at step
    dsimp only at step
    split at step
    · obtain rfl := Option.some.inj step
      simp [Progress.tokens, begun_cons, Frame.tokens, begunItems, Datum.tokens]
    · cases step
  | closeObject | colon | comma => cases step

/-- What a step has read is what was read before it, and its token. -/
theorem tokens_of_step {progress next : Progress} {token : Token}
    (step : step? progress token = some next) : next.tokens = progress.tokens ++ [token] := by
  rw [step?.eq_def] at step
  split at step
  case h_1 => exact tokens_of_begin step
  case h_9 => cases step
  all_goals
    obtain rfl := Option.some.inj step
    simp [Progress.tokens, begun_cons, Frame.tokens, begunMembers_nil, begunItems_concat,
      begunMembers_concat, tokens_array_concat, tokens_object_concat, Datum.tokens]

/-- A run reads just the tokens that it is given. -/
theorem tokens_of_run {start finish : Progress} {tokens : List Token}
    (run : run? start tokens = some finish) : finish.tokens = start.tokens ++ tokens := by
  induction tokens generalizing start with
  | nil =>
    obtain rfl := Option.some.inj run
    rw [List.append_nil]
  | cons token tokens ih =>
    rw [run?, List.foldlM_cons] at run
    obtain ⟨next, step, run⟩ := Option.bind_eq_some_iff.1 run
    rw [ih run, tokens_of_step step, List.append_assoc, List.singleton_append]

/-! ## Reading what has been written -/

theorem run?_append (start : Progress) (tokens others : List Token) :
    run? start (tokens ++ others) = (run? start tokens).bind fun next => run? next others :=
  List.foldlM_append

mutual

/-- The tokens of a value are read as that value, whatever has been begun. -/
theorem run_tokens (value : Datum) (around : List Frame) :
    run? (.atValue around) value.tokens = some (.behind value around) := by
  match value with
  | .null | .bool _ | .number _ | .string _ => rw [Datum.tokens]; rfl
  | .array [] => rw [Datum.tokens]; rfl
  | .array (item :: items) =>
    have first : run? (.atValue around) (.openArray :: item.tokens) =
        some (.behind item (.array [] :: around)) :=
      run_tokens item (.array [] :: around)
    rw [Datum.tokens, List.append_assoc, run?_append, first]
    exact run_itemTokens items [] item around
  | .object [] => rw [Datum.tokens]; rfl
  | .object ((key, value) :: members) =>
    have first : run? (.atValue around) (.openObject :: .string key :: .colon :: value.tokens) =
        some (.behind value (.object [] key :: around)) :=
      run_tokens value (.object [] key :: around)
    rw [Datum.tokens, List.append_assoc, run?_append, first]
    exact run_memberTokens members [] key value around

/-- The tokens of the items that follow are read as these, and the list ends. -/
theorem run_itemTokens (items before : List Datum) (item : Datum) (around : List Frame) :
    run? (.behind item (.array before :: around)) (itemTokens items ++ [.closeArray]) =
      some (.behind (.array (before ++ item :: items)) around) := by
  match items with
  | [] => rw [itemTokens]; rfl
  | next :: items =>
    have first : run? (.behind item (.array before :: around)) (.comma :: next.tokens) =
        some (.behind next (.array (before ++ [item]) :: around)) :=
      run_tokens next (.array (before ++ [item]) :: around)
    rw [itemTokens, List.append_assoc, run?_append, first, Option.bind_some,
      run_itemTokens items (before ++ [item]) next around, List.append_assoc,
      List.singleton_append]

/-- The tokens of the members that follow are read as these, and the object ends. -/
theorem run_memberTokens (members before : List (Text × Datum)) (key : Text) (value : Datum)
    (around : List Frame) :
    run? (.behind value (.object before key :: around)) (memberTokens members ++ [.closeObject]) =
      some (.behind (.object (before ++ (key, value) :: members)) around) := by
  match members with
  | [] => rw [memberTokens]; rfl
  | (name, next) :: members =>
    have first : run? (.behind value (.object before key :: around))
        (.comma :: .string name :: .colon :: next.tokens) =
          some (.behind next (.object (before ++ [(key, value)]) name :: around)) :=
      run_tokens next (.object (before ++ [(key, value)]) name :: around)
    rw [memberTokens, List.append_assoc, run?_append, first, Option.bind_some,
      run_memberTokens members (before ++ [(key, value)]) name next around, List.append_assoc,
      List.singleton_append]

end

/-- A value is read just from its own tokens. -/
theorem ofTokens?_eq_some_iff {tokens : List Token} {value : Datum} :
    ofTokens? tokens = some value ↔ tokens = value.tokens := by
  constructor
  · intro h
    rw [ofTokens?] at h
    split at h
    · rename_i run
      obtain rfl := Option.some.inj h
      exact (tokens_of_run run).symm
    · cases h
  · rintro rfl
    rw [ofTokens?, run_tokens]

/-- A value is read from the texts that its tokens are cut from. -/
theorem read?_eq_some_iff {s : Text} {value : Datum} :
    read? s = some value ↔ tokens? s = some value.tokens := by
  rw [read?, Option.bind_eq_some_iff]
  simp only [ofTokens?_eq_some_iff, exists_eq_right]

/-! ## Writing -/

mutual

/-- The value that is written. -/
def datum : Json → Datum
  | .bool value => .bool value
  | .string text => .string text
  | .array items => .array (data items)
  | .object members => .object (memberData members)

/-- The values of a list. -/
def data : List Json → List Datum
  | [] => []
  | item :: items => item.datum :: data items

/-- The members of an object. -/
def memberData : List (Text × Json) → List (Text × Datum)
  | [] => []
  | (key, value) :: members => (key, value.datum) :: memberData members

end

theorem data_eq_map (items : List Json) : data items = items.map datum := by
  induction items with
  | nil => rfl
  | cons item items ih => rw [data, ih, List.map_cons]

/-- What stands between a key and its value. -/
theorem LaidOut.colon : LaidOut ": ".toList [.colon] :=
  (LaidOut.single .colon trivial).append (.blank .nil)

mutual

/-- The layout of a value holds the tokens of its datum. -/
theorem laidOut_pretty (depth : Nat) (value : Json) :
    LaidOut (pretty depth value) value.datum.tokens := by
  match value with
  | .bool true => exact .single (.bool true) trivial
  | .bool false => exact .single (.bool false) trivial
  | .string text => exact .single (.string text) trivial
  | .array [] => exact (LaidOut.single .openArray trivial).append (.single .closeArray trivial)
  | .array (item :: items) =>
    have start := (LaidOut.single .openArray trivial).line (depth + 1)
    have inner := (start.append (laidOut_pretty (depth + 1) item)).append
      (laidOut_prettyItems (depth + 1) items)
    rw [pretty, datum, data, Datum.tokens]
    exact (inner.line depth).append (.single .closeArray trivial)
  | .object [] => exact (LaidOut.single .openObject trivial).append (.single .closeObject trivial)
  | .object ((key, value) :: members) =>
    have start := (LaidOut.single .openObject trivial).line (depth + 1)
    have label := (start.append (.single (.string key) trivial)).append .colon
    have inner := (label.append (laidOut_pretty (depth + 1) value)).append
      (laidOut_prettyMembers (depth + 1) members)
    rw [pretty, datum, memberData, Datum.tokens]
    exact (inner.line depth).append (.single .closeObject trivial)

/-- The layout of items holds their tokens with commas between them. -/
theorem laidOut_prettyItems (depth : Nat) (items : List Json) :
    LaidOut (prettyItems depth items) (itemTokens (data items)) := by
  match items with
  | [] => exact .nil
  | item :: items =>
    have start := (LaidOut.single .comma trivial).line depth
    rw [prettyItems, data, itemTokens]
    exact (start.append (laidOut_pretty depth item)).append (laidOut_prettyItems depth items)

/-- The layout of members holds their tokens with commas between them. -/
theorem laidOut_prettyMembers (depth : Nat) (members : List (Text × Json)) :
    LaidOut (prettyMembers depth members) (memberTokens (memberData members)) := by
  match members with
  | [] => exact .nil
  | (key, value) :: members =>
    have start := (LaidOut.single .comma trivial).line depth
    have label := (start.append (.single (.string key) trivial)).append .colon
    rw [prettyMembers, memberData, memberTokens]
    exact (label.append (laidOut_pretty depth value)).append (laidOut_prettyMembers depth members)

end

/-- What is written is read back, in whatever depth and whatever the strings hold. -/
theorem read?_render (value : Json) : read? value.render = some value.datum :=
  read?_eq_some_iff.2 (laidOut_pretty 0 value).tokens?_eq

example : read? " [-1.5e3,\"\\ud83d\\ude00\\/\" ,\tnull]\n".toList =
    some (.array [.number "-1.5e3".toList, .string "😀/".toList, .null]) :=
  read?_eq_some_iff.2 (by decide +kernel)

end CheckoutLint.Json
