/-!
The grid of character cells of a terminal.
-/

namespace RemoteTerm

structure Grid where
  cols : UInt16
  rows : UInt16
deriving DecidableEq, Repr, Inhabited

namespace Grid

-- One column less, but never less than one. A remote program that is told this size and then the
-- true one sees a change, and repaints.
def narrowed (g : Grid) : Grid :=
  { g with cols := if g.cols ≤ 1 then 1 else g.cols - 1 }

theorem toNat_cols_narrowed (g : Grid) : g.narrowed.cols.toNat = max (g.cols.toNat - 1) 1 := by
  have h : (1 : UInt16).toNat = 1 := rfl
  simp only [narrowed]
  split
  · rename_i le
    have := UInt16.le_iff_toNat_le.1 le
    omega
  · rename_i nle
    have lt : 1 < g.cols.toNat := by
      have := mt UInt16.le_iff_toNat_le.2 nle
      omega
    rw [UInt16.toNat_sub_of_le]
    · omega
    · exact UInt16.le_iff_toNat_le.2 (by omega)

end Grid

end RemoteTerm
