import CameraController.Lib.Prog
import CameraController.Lib.Rooted
import CameraController.Hsm
import CameraController.HsmReference
import CameraController.HsmDispatch
import CameraController.EventBroker
import CameraController.BrokerDelivery
import CameraController.BrokerIds
import CameraController.BrokerCancel
import CameraController.CameraWidget
import CameraController.CircularBuffer
import CameraController.StringConversion
import CameraController.CameraWrapper
import CameraController.Lib.Blame
import CameraController.WrapperWalks
import CameraController.WrapperFrame
import CameraController.WrapperBlame
import CameraController.WrapperHandles
import CameraController.WrapperDownload
import CameraController.Controller
import CameraController.ControllerDispatch
import CameraController.ControllerFrame
import CameraController.Lib.Deferral
import CameraController.ControllerCommands
import CameraController.ControllerExceptions
import CameraController.ControllerReturns
import CameraController.ControllerProgress
import CameraController.ControllerPosts
import CameraController.ControllerConnection
import CameraController.ControllerSessions
import CameraController.ControllerDownload
import CameraController.ControllerPhotos
import CameraController.ControllerSettles
import CameraController.ControllerUnresponsive
import CameraController.BrokerScheduler
import CameraController.BrokerStop
import CameraController.BrokerPublish
import CameraController.EventInjector
import CameraController.Main
import CameraController.MainCasts
import CameraController.FindNearest
import CameraController.Logger
import CameraController.LoggerRequests
import CameraController.CircularBufferMembers
import CameraController.InjectorLines
import CameraController.GeneratedEvents
import CameraController.HsmStart
import CameraController.ControllerSettings
import CameraController.ControllerErrorCodes
import CameraController.SyncQueueWakes
import CameraController.EventHandlerOrder
import CameraController.BrokerDispatch
import CameraController.BrokerLocks
import CameraController.ControllerCamera
import CameraController.ControllerHandles
import CameraController.SettingTexts
import CameraController.EventSniffer
import CameraController.ControllerListener
import CameraController.ControllerCaptures
import CameraController.BrokerHandlers
import CameraController.BrokerDrains
