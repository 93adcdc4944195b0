import ThreatMatrix.Text.Basic

/-!
# Matrices

The two matrices that tactics are published under.
-/

namespace ThreatMatrix

/-- A published matrix of tactics. -/
inductive Matrix where
  | enterprise
  | mobile
  deriving DecidableEq, Repr

namespace Matrix

/-- The matrices in the order of their declaration. -/
def all : List Matrix :=
  [enterprise, mobile]

/-- Both matrices are listed. -/
theorem mem_all (matrix : Matrix) : matrix ∈ all := by
  cases matrix <;> decide

/-- The published name of a matrix. -/
def name : Matrix → Text
  | enterprise => "enterprise-attack"
  | mobile => "mobile-attack"

/-- The symbol that stands for a matrix in program text. -/
def symbol : Matrix → Text
  | enterprise => "ENTERPRISE"
  | mobile => "MOBILE"

/-- The matrix of a published name. -/
def ofName? (text : Text) : Option Matrix :=
  all.find? (·.name = text)

/-- A published name is read as its matrix. -/
theorem ofName?_name (matrix : Matrix) : ofName? matrix.name = some matrix := by
  cases matrix <;> decide

end Matrix
end ThreatMatrix
