import ViewMotion.Gallery.Basic
import ViewMotion.Motion.Message

/-!
This module contains the messages for failures of the gallery, which are those of their causes.
-/

namespace ViewMotion

def GalleryError.message : GalleryError Float → String
  | .view error => error.message
  | .motion error => error.message

end ViewMotion
