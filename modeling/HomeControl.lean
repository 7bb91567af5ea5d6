import HomeControl.Config
import HomeControl.Controller.Session
import HomeControl.Logging.Log
import HomeControl.Main
import HomeControl.Proofs.Actuator.Pulsed
import HomeControl.Proofs.Actuator.States
import HomeControl.Proofs.Actuator.TimedRun
import HomeControl.Proofs.Bank.Construction
import HomeControl.Proofs.Bank.Reactions
import HomeControl.Proofs.Controller.Activation
import HomeControl.Proofs.Controller.Buttons
import HomeControl.Proofs.Controller.Collaborators
import HomeControl.Proofs.Controller.Confinement
import HomeControl.Proofs.Controller.Malformed
import HomeControl.Proofs.Controller.QuietRefresh
import HomeControl.Proofs.Controller.ReadBack
import HomeControl.Proofs.Controller.Rebuild
import HomeControl.Proofs.Controller.Requests
import HomeControl.Proofs.Controller.Sessions
import HomeControl.Proofs.Controller.Ticks
import HomeControl.Proofs.Controller.Triggers
import HomeControl.Proofs.Controller.WireForms
import HomeControl.Proofs.Controller.Writes
import HomeControl.Proofs.Gesture.DoublePress
import HomeControl.Proofs.Point
import HomeControl.Proofs.Rule.ReadBack
import HomeControl.Proofs.Scenario.Grouping
import HomeControl.Proofs.Scheduler.Independence
import HomeControl.Proofs.Scheduler.MissedDays
import HomeControl.Proofs.Serial.Reads
import HomeControl.Proofs.Topic
import HomeControl.Serial.Line
import HomeControl.Topic
