import ModelNav.Terminal.CellWidth

/-!
# Clusters

Characters that are drawn as one form a cluster: marks without a cell of their own belong to the
character before them, a joiner takes the next character along, and the emoji selector may add a
cell.  A text is cut between clusters only; a cut through a wide one leaves a blank in its place.
-/

namespace ModelNav
namespace Terminal

/-- Characters that are drawn as one, and the cells that they fill. -/
structure Cluster where
  text : Text
  cells : Nat
deriving DecidableEq, Repr

/-- The cluster with further characters that add the given cells. -/
def Cluster.extend (cluster : Cluster) (text : Text) (cells : Nat) : Cluster :=
  ⟨cluster.text ++ text, cluster.cells + cells⟩

/-- The clusters of a text that follows an unfinished cluster; `last` is the character that the
selector may widen. -/
def clustersAfter : (cluster : Cluster) → (last : Option Char) → Text → List Cluster
  | cluster, _, [] => [cluster]
  | cluster, last, first :: rest =>
    if first = joiner then
      match rest with
      | [] => [cluster.extend [first] 0]
      | next :: others => clustersAfter (cluster.extend [first, next] 0) last others
    else if first = emojiSelector then
      if last.any isSelectable then clustersAfter (cluster.extend [first] 1) none rest
      else clustersAfter (cluster.extend [first] 0) last rest
    else if charWidth first = 0 then clustersAfter (cluster.extend [first] 0) last rest
    else cluster :: clustersAfter ⟨[first], charWidth first⟩ (some first) rest

/-- The clusters of a text. -/
def clusters : Text → List Cluster
  | [] => []
  | first :: rest =>
    clustersAfter ⟨[first], charWidth first⟩ (if charWidth first = 0 then none else some first) rest

/-- The clusters that fit into a number of cells, and a blank for a wide one that is cut. -/
def cropClusters : (cells : Nat) → List Cluster → Text
  | _, [] => []
  | cells, cluster :: rest =>
    if cells = 0 then []
    else if cluster.cells ≤ cells then cluster.text ++ cropClusters (cells - cluster.cells) rest
    else [' ']

/-- The text cut to a number of cells. -/
def crop (cells : Nat) (text : Text) : Text :=
  if width text ≤ cells then text else cropClusters cells (clusters text)

/-- Pieces of a text that fit into a number of cells each, after a piece that fills `used`. -/
def chopAfter (limit : Nat) : (piece : Text) → (used : Nat) → List Cluster → List Text
  | piece, _, [] => [piece]
  | piece, used, cluster :: rest =>
    if used + cluster.cells ≤ limit then
      chopAfter limit (piece ++ cluster.text) (used + cluster.cells) rest
    else piece :: chopAfter limit cluster.text cluster.cells rest

/-- Pieces of a text that fit into a number of cells each. -/
def chop (limit : Nat) (text : Text) : List Text :=
  chopAfter limit [] 0 (clusters text)

/-- No character is lost when a text is taken apart. -/
theorem flatMap_text_clustersAfter (cluster : Cluster) (last : Option Char) (text : Text) :
    (clustersAfter cluster last text).flatMap Cluster.text = cluster.text ++ text := by
  fun_induction clustersAfter cluster last text <;> simp_all [Cluster.extend]

/-- The clusters of a text make up the text. -/
theorem flatMap_text_clusters (text : Text) : (clusters text).flatMap Cluster.text = text := by
  cases text with
  | nil => rfl
  | cons first rest => simp [clusters, flatMap_text_clustersAfter]

end Terminal
end ModelNav
