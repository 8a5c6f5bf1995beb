import LateBinding.Proofs.Bytes.Access

/-!
# What a success consumes

A cursor that succeeds has passed over the bytes of its item.  The laws of cursors that follow readers need
bytes that can be addressed; here any bytes will do, since a success bounds what has been looked at.
-/

namespace LateBinding

namespace Access

variable {Fault Item Result : Type}

/-- A computation of two steps succeeds when both do. -/
theorem gives_bind_ok_iff
    {access : Access Fault Item}
    {next : Item → Access Fault Result}
    {result : Result} :
    (access >>= next).Gives (.ok result) ↔
      ∃ item, access.Gives (.ok item) ∧ (next item).Gives (.ok result) := by
  constructor
  · intro both
    unfold Gives at both
    rw [ExceptT.run_bind] at both
    match first : access.run with
    | none =>
        rw [first] at both
        nomatch both
    | some (.error fault) =>
        rw [first] at both
        nomatch both
    | some (.ok item) =>
        rw [first] at both
        exact ⟨item, first, both⟩
  · rintro ⟨item, first, second⟩
    exact first.bind_ok second

theorem gives_pure_ok_iff {item result : Item} :
    Gives (pure item : Access Fault Item) (.ok result) ↔ item = result := by
  unfold Gives
  change some (Except.ok item) = some (Except.ok result) ↔ _
  simp

theorem gives_some_ok_iff {found : Option Item} {item : Item} :
    Gives (liftM found : Access Fault Item) (.ok item) ↔ found = some item := by
  cases found with
  | none => exact ⟨nofun, nofun⟩
  | some other =>
      change some (Except.ok other) = some (Except.ok item) ↔ _
      simp

end Access

namespace Cursor

variable {Fault Item Result : Type} {bytes window : Bytes} {position next count : Nat}

/-- Cursors one after the other succeed when the first does and the second does from where it stops. -/
theorem gives_bind_ok_iff
    {cursor : Cursor Fault Item}
    {following : Item → Cursor Fault Result}
    {result : Result} :
    ((cursor >>= following) bytes position).Gives (.ok (result, next)) ↔
      ∃ item middle, (cursor bytes position).Gives (.ok (item, middle)) ∧
        (following item bytes middle).Gives (.ok (result, next)) := by
  rw [bind_apply, Access.gives_bind_ok_iff]
  exact Prod.exists

theorem gives_pure_ok_iff {item result : Item} :
    ((pure item : Cursor Fault Item) bytes position).Gives (.ok (result, next)) ↔
      item = result ∧ position = next :=
  Access.gives_pure_ok_iff.trans Prod.ext_iff

/-- A cursor that succeeds has passed over the bytes of its item. -/
def PassesOver (cursor : Cursor TableError Item) (encode : Item → Bytes) : Prop :=
  ∀ bytes position item next, (cursor bytes position).Gives (.ok (item, next)) →
    bytes.drop position = encode item ++ bytes.drop next

theorem of_take_gives (gives : (take count bytes position).Gives (.ok (window, next))) :
    window.length = count ∧ bytes.drop position = window ++ bytes.drop next := by
  obtain ⟨remaining, counted, gives⟩ := Access.gives_bind_ok_iff.mp gives
  have counted := Access.gives_some_ok_iff.mp counted
  split at gives
  · nomatch gives
  · next enough =>
    obtain ⟨finish, added, gives⟩ := Access.gives_bind_ok_iff.mp gives
    obtain ⟨taken, inside, gives⟩ := Access.gives_bind_ok_iff.mp gives
    obtain ⟨rfl, rfl⟩ := Prod.mk.inj (Access.gives_pure_ok_iff.mp gives)
    have added := Access.gives_some_ok_iff.mp added
    have inside := Access.gives_some_ok_iff.mp inside
    unfold Access.difference? at counted
    unfold Access.sum? at added
    unfold Bytes.window? at inside
    split at counted <;> cases counted
    split at added <;> cases added
    split at inside <;> cases inside
    rw [Nat.add_sub_cancel_left]
    refine ⟨?_, ?_⟩
    · rw [List.length_take, List.length_drop]
      omega
    · rw [← List.drop_drop, List.take_append_drop]

theorem passesOver_word32 : PassesOver word32 Bytes.ofWord32 := by
  intro bytes position word next gives
  obtain ⟨window, behind, taken, gives⟩ := gives_bind_ok_iff.mp gives
  obtain ⟨found, there, gives⟩ := Access.gives_bind_ok_iff.mp gives
  obtain ⟨rfl, rfl⟩ := Prod.mk.inj (Access.gives_pure_ok_iff.mp gives)
  obtain ⟨width, parts⟩ := of_take_gives taken
  have there := Access.gives_some_ok_iff.mp there
  match window, width with
  | [byte0, byte1, byte2, byte3], _ =>
      obtain rfl := Option.some.inj there
      rw [parts, Bytes.ofWord32_word32]

theorem PassesOver.times
    {cursor : Cursor TableError Item}
    {encode : Item → Bytes}
    (passesOver : PassesOver cursor encode)
    {items : List Item}
    (gives : (cursor.times count bytes position).Gives (.ok (items, next))) :
    items.length = count ∧ bytes.drop position = items.flatMap encode ++ bytes.drop next := by
  induction count generalizing position items with
  | zero =>
      obtain ⟨rfl, rfl⟩ := gives_pure_ok_iff.mp gives
      exact ⟨rfl, rfl⟩
  | succ count inductionHypothesis =>
      obtain ⟨item, middle, first, gives⟩ := gives_bind_ok_iff.mp gives
      obtain ⟨later, behind, second, gives⟩ := gives_bind_ok_iff.mp gives
      obtain ⟨rfl, rfl⟩ := gives_pure_ok_iff.mp gives
      obtain ⟨length, parts⟩ := inductionHypothesis second
      refine ⟨congrArg Nat.succ length, ?_⟩
      rw [passesOver bytes position item middle first, parts, List.flatMap_cons, List.append_assoc]

/-- Nothing is left where a cursor has asked that nothing is. -/
theorem of_finish_gives (gives : (finish bytes position).Gives (.ok ((), next))) :
    bytes.drop position = [] := by
  obtain ⟨remaining, counted, gives⟩ := Access.gives_bind_ok_iff.mp gives
  have counted := Access.gives_some_ok_iff.mp counted
  unfold Access.difference? at counted
  split at counted <;> cases counted
  split at gives
  · next nothing => exact List.drop_of_length_le (Nat.sub_eq_zero_iff_le.mp nothing)
  · nomatch gives

end Cursor
end LateBinding
