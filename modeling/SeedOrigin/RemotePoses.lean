import SeedOrigin.FieldState
import SeedOrigin.Prediction

/-! RemotePlayerPoseStore: where the client shows the other players. stepRender,
which moves only the rendered poses, is left out. -/
namespace SeedOrigin.RemotePoses
open SeedOrigin.Octets SeedOrigin.Numbers SeedOrigin.ClientInput SeedOrigin.Prediction
open FloatOps (lit isFinite)

structure RemotePlayerPose (F : Type) where
  gameplayId : Int
  sessionId : Int
  name : Bytes
  authority : PredictedPose F
  rendered : PredictedPose F
  deriving DecidableEq

structure RemotePlayerPoseStore (F : Type) where
  poses : IntMap (RemotePlayerPose F) := ∅
  sessionToGameplayId : IntMap Int := ∅
  correctionSeconds : IntMap F := ∅
  deriving DecidableEq

section
variable {F : Type}

def addSnapshot (localSessionId : Int) (store : RemotePlayerPoseStore F)
    (snapshot : PlayerPoseSnapshot F) : RemotePlayerPoseStore F :=
  if snapshot.sessionId ≤ 0 ∨ snapshot.gameplayId ≤ 0 ∨
      (localSessionId > 0 ∧ snapshot.sessionId = localSessionId) then store
  else
    let pose : PredictedPose F := ⟨snapshot.x, snapshot.y, snapshot.z⟩
    { store with
      poses := store.poses.insert snapshot.gameplayId
        { gameplayId := snapshot.gameplayId
          sessionId := snapshot.sessionId
          name := snapshot.name
          authority := pose
          rendered := pose }
      sessionToGameplayId := store.sessionToGameplayId.insert snapshot.sessionId snapshot.gameplayId }

def replaceFromSnapshot (publicPoses : List (PlayerPoseSnapshot F)) (localSessionId : Int) :
    RemotePlayerPoseStore F :=
  publicPoses.foldl (addSnapshot localSessionId) {}

variable [PredictionOps F]

def RemotePlayerPoseStore.applyAuthoritative (store : RemotePlayerPoseStore F) (sessionId : Int)
    (x y z : F) (snapBaseline : Bool) : RemotePlayerPoseStore F :=
  if sessionId ≤ 0 ∨ isFinite x = false ∨ isFinite y = false ∨ isFinite z = false then store
  else match store.sessionToGameplayId[sessionId]? with
    | none => store
    | some gameplayId => match store.poses[gameplayId]? with
      | none => store
      | some pose =>
        let authority : PredictedPose F := ⟨x, y, z⟩
        let error := poseDistance pose.rendered authority
        let (rendered, remaining) := correctRender authority pose.rendered error snapBaseline
        { store with
          poses := store.poses.insert gameplayId
            { pose with authority := authority, rendered := rendered }
          correctionSeconds := store.correctionSeconds.insert gameplayId remaining }

end

end SeedOrigin.RemotePoses
