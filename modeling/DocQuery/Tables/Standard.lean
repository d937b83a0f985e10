import DocQuery.Tables.Basic

/-!
# DocQuery.Tables.Standard

The built-in tables. Order matters: messages list entries in the order they have here. Arithmetic
tokens are recognised so that they fail with the list of what is supported.
-/

namespace DocQuery.Tables

/-- The built-in operator and method tables. -/
def standard : Tables where
  operators := [
    ⟨"&&", "$and", true⟩,
    ⟨"||", "$or", true⟩,
    ⟨"==", "$eq", true⟩,
    ⟨"!=", "$ne", true⟩,
    ⟨">=", "$gte", true⟩,
    ⟨"<=", "$lte", true⟩,
    ⟨">", "$gt", true⟩,
    ⟨"<", "$lt", true⟩,
    ⟨"+", "", false⟩,
    ⟨"-", "", false⟩,
    ⟨"*", "", false⟩,
    ⟨"/", "", false⟩,
    ⟨"%", "", false⟩]
  methods := [
    ⟨"all", "$all", .array, ""⟩,
    ⟨"elemMatch", "$elemMatch", .expr, ""⟩,
    ⟨"exists", "$exists", .single, ""⟩,
    ⟨"in", "$in", .array, ""⟩,
    ⟨"mod", "$mod", .array, ""⟩,
    ⟨"nin", "$nin", .array, ""⟩,
    ⟨"size", "$size", .single, ""⟩,
    ⟨"type", "$type", .single, ""⟩,
    ⟨"where", "$where", .single, ""⟩,
    ⟨"regex", "$regex", .two, "$options"⟩]

/-- The built-in entries are tables. -/
theorem new_standard : new standard.operators standard.methods = .ok standard := by
  rfl

end DocQuery.Tables
